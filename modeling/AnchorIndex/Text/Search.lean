import AnchorIndex.Text.Alphanumeric
import AnchorIndex.Text.Blank

/-!
# Pieces of a text

Headers and attributes are read from the left, piece by piece: a function takes one piece off the
start of a text and answers the rest, or nothing when the text starts otherwise. The piece and the
rest make up the text (`afterPiece?_eq_some_iff`), and a piece that cannot be empty leaves a
shorter rest (`length_lt_of_afterWord?`).

`cutAt?` finds the first occurrence of a piece and answers the text before it and the text after
it; `occurs` tells whether there is one. The two parts around an occurrence and the piece make up
the text (`eq_of_cutAt?`).
-/

namespace AnchorIndex.Text

/-! ### How a text starts -/

/-- The text after the characters `piece`. -/
def afterPiece? : List Char → List Char → Option (List Char)
  | [], cs => some cs
  | _ :: _, [] => none
  | p :: piece, c :: cs => if p = c then afterPiece? piece cs else none

/-- The text after one blank or more. -/
def afterBlanks? : List Char → Option (List Char)
  | [] => none
  | c :: cs => if isBlank c then some (stripLeft cs) else none

/-- The text after the characters `word` and the blanks that have to follow them. -/
def afterWord? (word cs : List Char) : Option (List Char) :=
  (afterPiece? word cs).bind afterBlanks?

/-- The text after `word` and blanks, or the text itself when it does not start so. -/
def skipWord (word cs : List Char) : List Char :=
  (afterWord? word cs).getD cs

/-- A name at the start of a text, and the text after it. -/
def name? : List Char → Option (List Char × List Char)
  | [] => none
  | c :: cs =>
    if isNameStart c then some (c :: cs.takeWhile isNameChar, cs.dropWhile isNameChar) else none

/-- The text starts with the characters `piece`. -/
def startsWith (piece cs : List Char) : Bool :=
  piece.isPrefixOf cs

/-- A text starts with a piece when it is the piece and the text after it. -/
theorem afterPiece?_eq_some_iff {piece cs rest : List Char} :
  afterPiece? piece cs = some rest ↔ cs = piece ++ rest
  := by
  induction piece generalizing cs with
  | nil => simp [afterPiece?]
  | cons p piece ih =>
    cases cs with
    | nil => simp [afterPiece?]
    | cons c cs =>
      by_cases h : p = c
      · simp [afterPiece?, h, ih]
      · simp [afterPiece?, h, Ne.symm h]

theorem length_afterPiece? {piece cs rest : List Char} (h : afterPiece? piece cs = some rest) :
  rest.length + piece.length = cs.length
  := by
  rw [afterPiece?_eq_some_iff.1 h, List.length_append, Nat.add_comm]

theorem length_lt_of_afterBlanks? {cs rest : List Char} (h : afterBlanks? cs = some rest) :
  rest.length < cs.length
  := by
  cases cs with
  | nil => simp [afterBlanks?] at h
  | cons c cs =>
    simp only [afterBlanks?] at h
    split at h
    · have hr : stripLeft cs = rest := Option.some.inj h
      subst hr
      have := length_stripLeft_le cs
      simp only [List.length_cons]
      omega
    · contradiction

/-- The blanks after a word make the rest shorter. -/
theorem length_lt_of_afterWord? {word cs rest : List Char} (h : afterWord? word cs = some rest) :
  rest.length < cs.length
  := by
  obtain ⟨mid, hmid, hrest⟩ := Option.bind_eq_some_iff.1 h
  have := length_afterPiece? hmid
  have := length_lt_of_afterBlanks? hrest
  omega

/-! ### Finding a piece -/

/-- The text before the first occurrence of `piece`, and the text after that occurrence. -/
def cutAt? (piece : List Char) : List Char → Option (List Char × List Char)
  | [] => if piece.isEmpty then some ([], []) else none
  | c :: r =>
    match afterPiece? piece (c :: r) with
    | some after => some ([], after)
    | none =>
      match cutAt? piece r with
      | some (before, after) => some (c :: before, after)
      | none => none

/-- The piece occurs in the text. -/
def occurs (piece : List Char) : List Char → Bool
  | [] => piece.isEmpty
  | c :: r => startsWith piece (c :: r) || occurs piece r

/-- The text before the first occurrence of `piece`, all of it when there is none. -/
def before (piece cs : List Char) : List Char :=
  match cutAt? piece cs with
  | some (front, _) => front
  | none => cs

/-- The text starts with `mark`. -/
def headIs (mark : Char) (cs : List Char) : Bool :=
  cs.head? == some mark

/-- The text ends with `mark`. -/
def lastIs (mark : Char) (cs : List Char) : Bool :=
  cs.getLast? == some mark

/-- The text without the characters `mark` at its end. -/
def stripLast (mark : Char) (cs : List Char) : List Char :=
  (cs.reverse.dropWhile (· == mark)).reverse

/-- Cutting loses nothing but the piece. -/
theorem eq_of_cutAt? {piece cs front after : List Char}
    (h : cutAt? piece cs = some (front, after)) :
  cs = front ++ piece ++ after
  := by
  induction cs generalizing front after with
  | nil =>
    simp only [cutAt?] at h
    split at h
    · next hp => simp_all
    · contradiction
  | cons c r ih =>
    simp only [cutAt?] at h
    split at h
    · next hp =>
      simp only [Option.some.injEq, Prod.mk.injEq] at h
      rw [afterPiece?_eq_some_iff.1 hp, ← h.1, ← h.2, List.nil_append]
    · split at h
      · next front' after' hr =>
        simp only [Option.some.injEq, Prod.mk.injEq] at h
        rw [← h.1, ← h.2, ih hr]
        simp
      · contradiction

end AnchorIndex.Text
