/-!
# Blank characters

The characters that count as white space in a source text are the space separators and the
line and paragraph separators of Unicode together with the control characters that separate
(`isBlank`). On them rest trimming (`stripLeft`, `stripRight`, `strip`), cutting into words
(`words`) and the form of a text in which every run of blanks is one space (`squeeze`).
-/

namespace AnchorIndex.Text

/-- A character is blank when it is white space or a separating control character. The byte
order mark and the zero width space are not blank. -/
def isBlank (c : Char) : Bool :=
  let n := c.toNat
  (0x09 ≤ n && n ≤ 0x0D) || (0x1C ≤ n && n ≤ 0x20) || n == 0x85 || n == 0xA0 || n == 0x1680
    || (0x2000 ≤ n && n ≤ 0x200A) || n == 0x2028 || n == 0x2029 || n == 0x202F || n == 0x205F
    || n == 0x3000

/-- Every character that the standard library calls white space is blank. -/
theorem isBlank_of_isWhitespace (c : Char) (h : c.isWhitespace = true) :
  isBlank c = true
  := by
  simp only [Char.isWhitespace, Bool.or_eq_true, decide_eq_true_eq] at h
  rcases h with ((h | h) | h) | h <;> subst h <;> rfl

/-! ### Trimming -/

/-- The text without the blanks at its start. -/
def stripLeft (cs : List Char) : List Char :=
  cs.dropWhile isBlank

/-- The text without the blanks at its end. -/
def stripRight (cs : List Char) : List Char :=
  (cs.reverse.dropWhile isBlank).reverse

/-- The text without the blanks at either end. -/
def strip (cs : List Char) : List Char :=
  stripRight (stripLeft cs)

/-- A text is blank when all its characters are. -/
def allBlank (cs : List Char) : Bool :=
  cs.all isBlank

/-- Trimming on the left leaves a text no longer than it was. -/
theorem length_stripLeft_le (cs : List Char) :
  (stripLeft cs).length ≤ cs.length
  := by
  simpa [stripLeft] using (List.dropWhile_sublist isBlank).length_le

/-! ### Words -/

/-- One more character in front of the words of a text. -/
def consWord (c : Char) : Bool × List (List Char) → Bool × List (List Char)
  | (joined, ws) =>
    if isBlank c then (false, ws)
    else if joined then
      match ws with
      | w :: rest => (true, (c :: w) :: rest)
      | [] => (true, [[c]])
    else (true, [c] :: ws)

/-- The maximal runs of characters that are not blank, in order. -/
def words (cs : List Char) : List (List Char) :=
  (cs.foldr consWord (false, [])).2

/-- The words of the text with one space between them. -/
def squeeze (cs : List Char) : List Char :=
  [' '].intercalate (words cs)

end AnchorIndex.Text
