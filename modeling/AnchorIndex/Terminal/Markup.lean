import AnchorIndex.Terminal.PictureTable
import AnchorIndex.Text.Blank
import AnchorIndex.Text.LetterCase
import AnchorIndex.Text.Width
import AnchorIndex.Terminal.Look

/-!
# Markup of messages

A message asks for a picture by a name between two colons (`withPictures`). The name may end in a
word that says whether the picture is shown as a text or as a picture. A name that no picture has
stays as it is, with both its colons.

A message may hold tags in square brackets that give a look to what stands between them. The
terminal has no looks, so tags are taken out (`withoutTags`): a bracket that a small letter, a
number sign, a slash or an at sign follows opens a tag, and a reverse solidus in front of it makes
the tag a part of the text. A tag that closes what was never opened is reported. Names of pictures
are replaced in the pieces between tags.
-/

namespace AnchorIndex.Terminal

/-! ### Pictures -/

/-- The names of pictures with their pictures. -/
def pairs : List (List Char) → List (String × List Char)
  | name :: picture :: rest => (String.ofList name, picture) :: pairs rest
  | _ => []

/-- All pictures by their names. -/
def pictures : List (String × List Char) :=
  pairs (Text.words pictureTable.toList)

/-- The mark that makes a text of the character before it. -/
def textMark : Char := Char.ofNat 0xFE0E

/-- A name with the word at its end that says how the picture is shown, as the mark for it. -/
def picturePart (name : List Char) : List Char × List Char :=
  let front (word : List Char) : List Char := name.take (name.length - word.length)
  let endsWith (word : List Char) : Bool := word.isSuffixOf name
  let asText := "-text".toList
  let asPicture := "-emoji".toList
  if endsWith asText then (front asText, [textMark])
  else if endsWith asPicture then (front asPicture, [Text.pictureMark])
  else (name, [])

/-- The picture that a name asks for; capitals are as good as small letters. -/
def picture? (name : List Char) : Option (List Char) :=
  let (stem, mark) := picturePart name
  (pictures.lookup (Text.lower (String.ofList stem))).map (· ++ mark)

/-- A name between two colons as it is shown. -/
def pictureOrName (name : List Char) : List Char :=
  (picture? name).getD (':' :: name ++ [':'])

/-- The text with pictures in the place of their names; `held` is what was read of a name after a
colon, the last character first. -/
def withPicturesFrom (held : Option (List Char)) : List Char → List Char
  | [] =>
    match held with
    | none => []
    | some name => ':' :: name.reverse
  | c :: r =>
    match held with
    | none => if c = ':' then withPicturesFrom (some []) r else c :: withPicturesFrom none r
    | some name =>
      if c = ':' then pictureOrName name.reverse ++ withPicturesFrom none r
      else if Text.isBlank c then ':' :: name.reverse ++ c :: withPicturesFrom none r
      else withPicturesFrom (some (c :: name)) r

/-- The text with pictures in the place of their names. -/
def withPictures (cs : List Char) : List Char :=
  withPicturesFrom none cs

/-- After a colon that begins a name, a text without colons stays as it is. -/
theorem withPicturesFrom_eq {cs : List Char} (h : ':' ∉ cs) (held : Option (List Char)) :
  withPicturesFrom held cs = (held.elim [] fun name => ':' :: name.reverse) ++ cs
  := by
  induction cs generalizing held with
  | nil => cases held <;> simp [withPicturesFrom]
  | cons c r ih =>
    have hc : c ≠ ':' := fun e => h (e ▸ List.mem_cons_self)
    have rest := fun held => ih (fun m => h (List.mem_cons_of_mem c m)) held
    cases held with
    | none => simp [withPicturesFrom, hc, rest]
    | some name =>
      cases hb : Text.isBlank c <;> simp [withPicturesFrom, hc, hb, rest]

/-- A text without colons stays as it is. -/
theorem withPictures_eq {cs : List Char} (h : ':' ∉ cs) :
  withPictures cs = cs
  :=
  withPicturesFrom_eq h none

/-! ### Pieces of a message -/

/-- A piece of a message: text, or a tag with its position. -/
inductive Piece where
  | plain (cs : List Char)
  | tag (position : Nat) (body : List Char)

/-- A tag at the start of a text, and the text after it. -/
def tag? (cs : List Char) : Option (List Char × List Char) :=
  match cs with
  | '[' :: c :: r =>
    if ('a' ≤ c && c ≤ 'z') || "#/@".toList.contains c then
      let body := r.takeWhile fun d => d != '[' && d != ']'
      match r.drop body.length with
      | ']' :: rest => some (c :: body, rest)
      | _ => none
    else none
  | _ => none

/-- The pieces of a message from a position on, where `held` is the text before it that belongs to
the same piece, its last character first. Every round takes at least one character. -/
def piecesFrom (fuel : Nat) (position : Nat) (held : List Char) (cs : List Char) : List Piece :=
  match fuel with
  | 0 => [.plain (held.reverse ++ cs)]
  | fuel + 1 =>
    let slashes := cs.takeWhile (· == '\\')
    let rest := cs.drop slashes.length
    match tag? rest with
    | some (tag, after) =>
      let next := position + slashes.length + tag.length + 2
      let front : List Piece := [.plain held.reverse, .plain (slashes.take (slashes.length / 2))]
      let piece : Piece :=
        if slashes.length % 2 = 1 then .plain ('[' :: tag ++ [']'])
        else .tag (position + slashes.length) tag
      front ++ piece :: piecesFrom fuel next [] after
    | none =>
      match rest with
      | [] => [.plain (held.reverse ++ slashes)]
      | c :: after =>
        piecesFrom fuel (position + slashes.length + 1) (c :: slashes ++ held) after

/-- The pieces of a message. -/
def pieces (cs : List Char) : List Piece :=
  piecesFrom (cs.length + 1) 0 [] cs

/-! ### Taking tags out -/

/-- The part of a tag before its parameters. -/
def tagName (tag : List Char) : List Char :=
  tag.takeWhile (· != '=')

/-- The looks that are open after a tag at a position, the latest first. -/
def afterTag (opened : List String) (position : Nat) (tag : List Char) :
    Except Failure (List String) :=
  let refuse (tag reason : String) : Except Failure (List String) :=
    .error (.markup ("closing tag '[" ++ tag ++ "]' at position " ++ toString position ++ reason))
  match tagName tag with
  | '/' :: name =>
    if Text.allBlank name then
      match opened with
      | _ :: rest => .ok rest
      | [] => refuse "/" " has nothing to close"
    else do
      let look ← lookName (Text.strip name)
      if opened.contains look then return opened.erase look
      else refuse (String.ofList tag) " doesn't match any open tag"
  | name => return (← lookName name) :: opened

/-- A text in which a reverse solidus before a bracket is left out. -/
def unescape : List Char → List Char
  | [] => []
  | [c] => [c]
  | c :: d :: r => if c = '\\' ∧ d = '[' then '[' :: unescape r else c :: unescape (d :: r)

/-- The text of some pieces, where the looks `opened` are open. -/
def textOf (opened : List String) : List Piece → Except Failure (List Char)
  | [] => .ok []
  | .plain cs :: rest => do
    let more ← textOf opened rest
    return withPictures (unescape cs) ++ more
  | .tag position body :: rest => do
    textOf (← afterTag opened position body) rest

/-- The text of a message without its tags, and with its pictures. -/
def withoutTags (cs : List Char) : Except Failure (List Char) :=
  textOf [] (pieces cs)

/-! ### Characters that move the cursor -/

/-- The character rings or moves the cursor, and is not shown. -/
def isUnshown (c : Char) : Bool :=
  let n := c.toNat
  n == 0x7 || n == 0x8 || n == 0xB || n == 0xC || n == 0xD

/-- The columns from one tab stop to the next. -/
def tabStop : Nat := 8

/-- The parts of a line between tabs, with spaces up to the next stop after each but the last;
`column` is the cell at which the first part starts. -/
def fillParts (column : Nat) : List (List Char) → List Char
  | [] => []
  | [part] => part
  | part :: rest =>
    let part := part ++ [' ']
    let column := column + Text.width part
    let gap := (tabStop - column % tabStop) % tabStop
    part ++ List.replicate gap ' ' ++ fillParts (column + gap) rest

/-- A line with spaces in the place of tabs. -/
def expandTabs (line : List Char) : List Char :=
  fillParts 0 (Text.splitAt '\t' line)

/-- The text of a message without what is not shown. -/
def shownText (message : String) : Except Failure (List Char) :=
  (withoutTags message.toList).map fun cs => cs.filter fun c => !isUnshown c

/-- A message as it is shown. -/
def shown (message : String) : Except Failure String :=
  (shownText message).map fun cs =>
    String.ofList (Text.unlines ((Text.lines cs).map expandTabs))

end AnchorIndex.Terminal
