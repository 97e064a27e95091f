import AnchorIndex.Text.Alphanumeric
import AnchorIndex.Text.Lines

/-!
# Masked source texts

In a masked text the contents of comments and of text and character literals are blanks, and all
else stands where it stood. Braces that are left are braces of the program. The quotes around a
literal stay, together with the mark and the hashes of a raw literal.

A line is masked character by character. What a character means depends on the region it stands
in (`Region`), on the characters before it in its line and on those after it. A construct of
several characters decides about the characters to come: `pending` tells for each of them whether
it is kept. Regions go on over the end of a line, except for a line comment. A masked line is as
long as the line (`length_maskLine`).
-/

namespace AnchorIndex.Source

/-- What a position of a source text lies in. -/
inductive Region where
  /-- Program text. -/
  | code
  /-- The rest of a line after two slashes. -/
  | lineComment
  /-- A comment between slashes and stars, of which `depth + 1` are open. -/
  | blockComment (depth : Nat)
  /-- A text literal. -/
  | literal
  /-- A raw text literal that a quote with `hashes` hashes closes. -/
  | rawLiteral (hashes : Nat)
  deriving DecidableEq, Repr

/-- What follows from reading a character: whether it is kept, whether the characters to come
are, and the region after them. -/
structure Reading where
  kept : Bool
  pending : List Bool
  region : Region

/-- The `r` after the characters `before`, the nearest first, opens a raw literal unless it
belongs to a name. A `b` in front of it that is no part of a name belongs to the literal. -/
def opensRaw : List Char → Bool
  | [] => true
  | c :: before =>
    !Text.isWordChar c ||
      (c == 'b' &&
        match before with
        | [] => true
        | d :: _ => !Text.isWordChar d)

/-- The number of characters between a quote and the quote that closes a character literal,
given the characters after the first quote. An escape is closed by the next quote after its first
two characters, at most ten characters on. Otherwise the literal has one character. -/
def charLiteralLength? : List Char → Option Nat
  | '\\' :: _ :: r =>
    let inner := r.takeWhile (· != '\'')
    if inner.length < r.length && inner.length ≤ 7 then some (inner.length + 2) else none
  | _ :: '\'' :: _ => some 1
  | _ => none

/-- Reads a character of program text. -/
def readCode (before : List Char) (c : Char) (rest : List Char) : Reading :=
  match c, rest with
  | '/', '/' :: _ => ⟨false, [], .lineComment⟩
  | '/', '*' :: _ => ⟨false, [false], .blockComment 0⟩
  | 'r', rest =>
    let hashes := (rest.takeWhile (· == '#')).length
    if opensRaw before && (rest.drop hashes).head? == some '"' then
      ⟨true, List.replicate (hashes + 1) true, .rawLiteral hashes⟩
    else ⟨true, [], .code⟩
  | '"', _ => ⟨true, [], .literal⟩
  | '\'', rest =>
    match charLiteralLength? rest with
    | some n => ⟨true, List.replicate n false ++ [true], .code⟩
    | none => ⟨true, [], .code⟩
  | _, _ => ⟨true, [], .code⟩

/-- Reads a character of a block comment. -/
def readComment (depth : Nat) (c : Char) (rest : List Char) : Reading :=
  match c, rest with
  | '*', '/' :: _ =>
    ⟨false, [false], match depth with
      | 0 => .code
      | d + 1 => .blockComment d⟩
  | '/', '*' :: _ => ⟨false, [false], .blockComment (depth + 1)⟩
  | _, _ => ⟨false, [], .blockComment depth⟩

/-- Reads a character of a text literal. -/
def readLiteral (c : Char) (rest : List Char) : Reading :=
  match c, rest with
  | '\\', _ :: _ => ⟨false, [false], .literal⟩
  | '"', _ => ⟨true, [], .code⟩
  | _, _ => ⟨false, [], .literal⟩

/-- Reads a character of a raw literal. -/
def readRaw (hashes : Nat) (c : Char) (rest : List Char) : Reading :=
  if c = '"' ∧ (List.replicate hashes '#').isPrefixOf rest then
    ⟨true, List.replicate hashes true, .code⟩
  else ⟨false, [], .rawLiteral hashes⟩

/-- Reads a character of a region. -/
def Region.read (region : Region) (before : List Char) (c : Char) (rest : List Char) : Reading :=
  match region with
  | .code => readCode before c rest
  | .lineComment => ⟨false, [], .lineComment⟩
  | .blockComment depth => readComment depth c rest
  | .literal => readLiteral c rest
  | .rawLiteral hashes => readRaw hashes c rest

/-- The region in which the next line starts. -/
def Region.afterLine : Region → Region
  | .lineComment => .code
  | r => r

/-- Masks the rest of a line: `pending` tells which of its first characters are kept, `region` is
the region after those, and `before` are the characters of the line already read, the nearest
first. -/
def maskFrom (region : Region) (pending : List Bool) (before : List Char) :
    List Char → List Char × Region
  | [] => ([], region.afterLine)
  | c :: rest =>
    let now : Reading :=
      match pending with
      | kept :: more => ⟨kept, more, region⟩
      | [] => region.read before c rest
    let (masked, after) := maskFrom now.region now.pending (c :: before) rest
    ((if now.kept then c else ' ') :: masked, after)

/-- Masks a line that starts in a region, and tells the region in which the next one starts. -/
def maskLine (region : Region) (line : List Char) : List Char × Region :=
  maskFrom region [] [] line

/-- Masks lines, the first of which starts in a region. -/
def maskLinesFrom (region : Region) : List (List Char) → List (List Char)
  | [] => []
  | line :: rest =>
    let (masked, after) := maskLine region line
    masked :: maskLinesFrom after rest

/-- The masked lines of a source text. -/
def maskLines (lines : List (List Char)) : List (List Char) :=
  maskLinesFrom .code lines

/-- A source text masked. -/
def mask (text : List Char) : List Char :=
  Text.unlines (maskLines (Text.lines text))

/-! ### Positions -/

theorem length_maskFrom (region : Region) (pending : List Bool) (before cs : List Char) :
  (maskFrom region pending before cs).1.length = cs.length
  := by
  induction cs generalizing region pending before with
  | nil => rfl
  | cons c rest ih => simp [maskFrom, ih]

/-- A masked line is as long as the line. -/
theorem length_maskLine (region : Region) (line : List Char) :
  (maskLine region line).1.length = line.length
  := length_maskFrom region [] [] line

/-- There are as many masked lines as lines. -/
theorem length_maskLines (lines : List (List Char)) :
  (maskLines lines).length = lines.length
  := by
  rw [maskLines]
  generalize Region.code = region
  induction lines generalizing region with
  | nil => rfl
  | cons line rest ih => simp [maskLinesFrom, ih]

end AnchorIndex.Source
