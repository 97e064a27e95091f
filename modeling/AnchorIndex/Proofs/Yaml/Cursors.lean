import AnchorIndex.Yaml.Scalar
import Mathlib.Data.List.Basic
import Mathlib.Data.List.TakeWhile
import Mathlib.Order.Lattice

/-!
# Cursors on a line

Moving a cursor past characters that end no line keeps it on its line (`Cursor.skip_onOneLine`).
Most moves go past the spaces at the cursor (`Cursor.skipWhile_spaces`).
-/

namespace AnchorIndex.Yaml

/-! ### Characters of one line -/

/-- No character ends a line. -/
def OnOneLine (cs : List Char) : Prop :=
  ∀ c ∈ cs, isBreak c = false

theorem onOneLine_append_iff {a b : List Char} :
  OnOneLine (a ++ b) ↔ OnOneLine a ∧ OnOneLine b
  := List.forall_mem_append

theorem onOneLine_replicate_space (n : Nat) :
  OnOneLine (List.replicate n ' ')
  := by
  intro c hc
  rw [List.eq_of_mem_replicate hc]
  rfl

/-- The spaces at the start of a text end in front of the first other character. -/
theorem takeWhile_spaces {r : List Char} (hr : ∀ ch ∈ r.head?, ch ≠ ' ') (n : Nat) :
  (List.replicate n ' ' ++ r).takeWhile (· == ' ') = List.replicate n ' '
  := by
  rw [List.takeWhile_append_of_pos (by simp)]
  cases r with
  | nil => simp
  | cons ch r =>
    rw [List.takeWhile_cons_of_neg (by simpa using hr ch rfl), List.append_nil]

/-- A text begins with some spaces, perhaps none. -/
theorem exists_spaces (cs : List Char) :
  ∃ n more, cs = List.replicate n ' ' ++ more ∧ more.head? ≠ some ' '
  := by
  have hspaces : cs.takeWhile (· == ' ') = List.replicate _ ' ' :=
    List.eq_replicate_length.2 fun c hc => by simpa using List.mem_takeWhile_imp hc
  refine ⟨(cs.takeWhile (· == ' ')).length, cs.dropWhile (· == ' '), ?_, ?_⟩
  · rw [← hspaces, List.takeWhile_append_dropWhile]
  · intro h
    have hhead := List.head?_dropWhile_not (· == ' ') cs
    rw [h] at hhead
    simp at hhead

namespace Cursor

theorem rest_skip (n : Nat) (c : Cursor) :
  (c.skip n).rest = c.rest.drop n
  := by
  induction n generalizing c with
  | zero => rfl
  | succ n ih =>
    rw [skip, ih, advance]
    cases hrest : c.rest with
    | nil => simp [hrest]
    | cons ch r =>
      dsimp only
      split
      · rfl
      · split <;> rfl

theorem rest_skip_append {a b : List Char} {c : Cursor} (hrest : c.rest = a ++ b) :
  (c.skip a.length).rest = b
  := by
  rw [rest_skip, hrest, List.drop_left]

theorem rest_skip_spaces {n : Nat} {r : List Char} {c : Cursor}
    (hrest : c.rest = List.replicate n ' ' ++ r) :
  (c.skip n).rest = r
  := by
  rw [rest_skip, hrest, List.drop_left' List.length_replicate]

theorem skip_add (m n : Nat) (c : Cursor) :
  c.skip (m + n) = (c.skip m).skip n
  := by
  induction m generalizing c with
  | zero => rw [Nat.zero_add, skip]
  | succ m ih => rw [Nat.succ_add, skip, skip, ih]

/-- Characters of one line that are passed over leave the line as it is. -/
theorem skip_onOneLine {cs r : List Char} (hcs : OnOneLine cs) {c : Cursor}
    (hrest : c.rest = cs ++ r) :
  (c.skip cs.length).rest = r ∧ (c.skip cs.length).index = c.index + cs.length ∧
    (c.skip cs.length).line = c.line ∧ c.column ≤ (c.skip cs.length).column
  := by
  induction cs generalizing c with
  | nil => exact ⟨hrest, rfl, rfl, le_rfl⟩
  | cons ch cs ih =>
    have hch : isBreak ch = false := hcs ch List.mem_cons_self
    obtain ⟨column, hadvance, hcolumn⟩ :
        ∃ column, c.advance = ⟨cs ++ r, c.index + 1, c.line, column⟩ ∧ c.column ≤ column := by
      rw [advance, hrest]
      simp only [List.cons_append, hch, Bool.false_and, Bool.false_eq_true, if_false]
      split
      · exact ⟨c.column, rfl, le_rfl⟩
      · exact ⟨c.column + 1, rfl, Nat.le_succ _⟩
    rw [List.length_cons, skip, hadvance]
    have hcs' : OnOneLine cs := fun x hx => hcs x (List.mem_cons_of_mem ch hx)
    obtain ⟨hr, hindex, hline, hle⟩ := ih hcs' (c := ⟨cs ++ r, c.index + 1, c.line, column⟩) rfl
    refine ⟨hr, ?_, hline, hcolumn.trans hle⟩
    rw [hindex, Nat.add_assoc, Nat.add_comm 1]

theorem column_skip_space {c : Cursor} {r : List Char} (hrest : c.rest = ' ' :: r) :
  0 < (c.skip 1).column
  := by
  rw [skip, skip, advance, hrest]
  exact Nat.succ_pos _

/-- Passing over the characters that satisfy a condition, in front of one that does not. -/
theorem skipWhile_eq_skip {p : Char → Bool} {cs r : List Char} {c : Cursor}
    (hrest : c.rest = cs ++ r) (hcs : ∀ ch ∈ cs, p ch = true) (hr : ∀ ch ∈ r.head?, p ch = false) :
  c.skipWhile p = c.skip cs.length
  := by
  rw [skipWhile, hrest, List.takeWhile_append_of_pos hcs]
  cases r with
  | nil => simp
  | cons ch r =>
    rw [List.takeWhile_cons_of_neg, List.append_nil]
    rw [hr ch rfl]
    exact Bool.false_ne_true

theorem skipWhile_spaces {n : Nat} {r : List Char} {c : Cursor}
    (hrest : c.rest = List.replicate n ' ' ++ r) (hr : ∀ ch ∈ r.head?, ch ≠ ' ') :
  c.skipWhile (· == ' ') = c.skip n
  := by
  rw [skipWhile, hrest, takeWhile_spaces hr, List.length_replicate]

/-- Behind a line feed there is the start of a line. -/
theorem exists_lineBreak {c : Cursor} {r : List Char} (h : c.rest = '\n' :: r) :
  ∃ e : Cursor, c.lineBreak? = some ('\n', e) ∧ e.rest = r ∧ e.column = 0
  := by
  refine ⟨⟨r, c.index + 1, c.line + 1, 0⟩, ?_, rfl, rfl⟩
  rw [lineBreak?, h]
  simp [isBreak, advance, h]

theorem lineBreak?_eq_none {c : Cursor} (h : ∀ ch ∈ c.rest.head?, isBreak ch = false) :
  c.lineBreak? = none
  := by
  rw [lineBreak?]
  cases hrest : c.rest with
  | nil => rfl
  | cons ch r =>
    have hch : isBreak ch = false := h ch (by rw [hrest]; rfl)
    split
    next heq =>
      cases heq
      cases hch
    next heq =>
      cases heq
      rw [hch]
      rfl
    next heq => cases heq

/-- A mark of a document starts with a hyphen or a point. -/
theorem atDocumentMark_of_head {c : Cursor} {ch : Char} (hhead : c.rest.head? = some ch)
    (hhyphen : ch ≠ '-') (hpoint : ch ≠ '.') :
  c.atDocumentMark = false
  := by
  obtain ⟨cs, hcs⟩ := List.head?_eq_some_iff.1 hhead
  rw [atDocumentMark, hcs]
  split
  next heq =>
    cases heq
    exact absurd rfl hhyphen
  next heq =>
    cases heq
    exact absurd rfl hpoint
  next => rfl

end Cursor

end AnchorIndex.Yaml
