import AnchorIndex.Text.Search
import Mathlib.Data.List.Infix

/-!
# Searching a text for a piece

A piece is found where it first occurs, whatever follows (`cutAt?_append_of_some`), and it is not
found if it does not occur (`cutAt?_eq_none_iff`). Where two texts meet there is no further
occurrence if the character on one side belongs to no piece (`cutAt?_append_of_none`).
-/

namespace AnchorIndex.Text

/-- The character at the end of the first text or the one at the start of the second is not one of
the piece. -/
def Parted (piece cs more : List Char) : Prop :=
  (∀ c ∈ cs.getLast?, c ∉ piece) ∨ ∀ c ∈ more.head?, c ∉ piece

theorem afterPiece?_eq_none_iff {piece cs : List Char} :
  afterPiece? piece cs = none ↔ ¬ piece <+: cs
  := by
  rw [Option.eq_none_iff_forall_ne_some]
  constructor
  · rintro h ⟨rest, rfl⟩
    exact h rest (afterPiece?_eq_some_iff.2 rfl)
  · intro h rest hrest
    exact h ⟨rest, (afterPiece?_eq_some_iff.1 hrest).symm⟩

/-- A piece is found if it occurs. -/
theorem cutAt?_eq_none_iff {piece cs : List Char} :
  cutAt? piece cs = none ↔ ¬ piece <:+: cs
  := by
  induction cs with
  | nil =>
    rw [cutAt?, List.infix_nil]
    cases piece <;> simp
  | cons c cs ih =>
    rw [cutAt?, List.infix_cons_iff, not_or, ← ih, ← afterPiece?_eq_none_iff]
    cases afterPiece? piece (c :: cs) with
    | some after => simp
    | none =>
      cases cutAt? piece cs with
      | some parts => simp
      | none => simp

/-- A piece is found at the same place if more text follows. -/
theorem cutAt?_append_of_some {piece cs front after : List Char}
    (h : cutAt? piece cs = some (front, after)) (more : List Char) :
  cutAt? piece (cs ++ more) = some (front, after ++ more)
  := by
  induction cs generalizing front with
  | nil =>
    rw [cutAt?] at h
    split at h
    next hpiece =>
      cases h
      rw [List.isEmpty_iff.1 hpiece]
      cases more <;> rfl
    next => contradiction
  | cons c cs ih =>
    rw [cutAt?] at h
    rw [List.cons_append, cutAt?]
    split at h
    next rest hrest =>
      cases h
      have hmore : afterPiece? piece (c :: (cs ++ more)) = some (after ++ more) := by
        rw [afterPiece?_eq_some_iff, ← List.cons_append, afterPiece?_eq_some_iff.1 hrest,
          List.append_assoc]
      rw [hmore]
    next hnone =>
      split at h
      next front' after' hcut =>
        cases h
        have hnot : afterPiece? piece (c :: (cs ++ more)) = none := by
          rw [afterPiece?_eq_none_iff] at hnone ⊢
          intro hstarts
          apply hnone
          have hle : piece.length ≤ (c :: cs).length := by
            rw [eq_of_cutAt? hcut]
            simp
            omega
          exact List.prefix_of_prefix_length_le hstarts ⟨more, rfl⟩ hle
        rw [hnot, ih hcut]
      next => contradiction

/-- Where texts are parted, no piece begins in the first and ends in the second. -/
theorem Parted.prefix_of_prefix {piece cs more : List Char} (h : Parted piece cs more)
    (hcs : cs ≠ []) (hstarts : piece <+: cs ++ more) :
  piece <+: cs
  := by
  obtain ⟨rest, hrest⟩ := hstarts
  obtain ⟨between, hbetween, -⟩ | ⟨between, rfl, hmore⟩ := List.append_eq_append_iff.1 hrest
  · exact ⟨between, hbetween.symm⟩
  · cases between with
    | nil =>
      rw [List.append_nil]
    | cons d between =>
      exfalso
      obtain hlast | hhead := h
      · apply hlast _ (List.getLast?_eq_some_getLast hcs)
        apply List.mem_append_left _ (List.getLast_mem hcs)
      · apply hhead d
        · rw [hmore]
          rfl
        · simp

theorem Parted.of_suffix {piece cs tail more : List Char} (h : Parted piece cs more)
    (htail : tail <:+ cs) :
  Parted piece tail more
  := by
  obtain hlast | hhead := h
  · left
    intro c hc
    apply hlast
    obtain ⟨front, rfl⟩ := htail
    rw [Option.mem_def] at hc ⊢
    rw [List.getLast?_append, hc, Option.some_or]
  · exact .inr hhead

/-- A piece that does not occur in the first text is looked for in the second. -/
theorem cutAt?_append_of_none {piece cs more : List Char} (h : cutAt? piece cs = none)
    (hparted : Parted piece cs more) :
  cutAt? piece (cs ++ more) = (cutAt? piece more).map fun parts => (cs ++ parts.1, parts.2)
  := by
  induction cs with
  | nil => cases hmore : cutAt? piece more <;> simp [hmore]
  | cons c cs ih =>
    rw [cutAt?_eq_none_iff, List.infix_cons_iff, not_or] at h
    have hnot : afterPiece? piece (c :: (cs ++ more)) = none := by
      rw [afterPiece?_eq_none_iff]
      intro hstarts
      apply h.1 (hparted.prefix_of_prefix (List.cons_ne_nil c cs) hstarts)
    rw [List.cons_append, cutAt?, hnot,
      ih (cutAt?_eq_none_iff.2 h.2) (hparted.of_suffix (List.suffix_cons c cs))]
    cases cutAt? piece more <;> rfl

/-- The text in front of a piece is a beginning of the text. -/
theorem before_prefix (piece cs : List Char) :
  before piece cs <+: cs
  := by
  rw [before]
  cases hcut : cutAt? piece cs with
  | none => exact List.prefix_refl cs
  | some parts =>
    rw [eq_of_cutAt? hcut, List.append_assoc]
    exact List.prefix_append _ _

/-! ### Marks -/

/-- A text without the mark is in front of it. -/
theorem takeWhile_ne_append {mark : Char} {cs : List Char} (h : mark ∉ cs) (more : List Char) :
  (cs ++ more).takeWhile (· != mark) = cs ++ more.takeWhile (· != mark)
  := by
  apply List.takeWhile_append_of_pos
  intro c hc
  rw [bne_iff_ne]
  rintro rfl
  contradiction

theorem dropWhile_ne_append {mark : Char} {cs : List Char} (h : mark ∉ cs) (more : List Char) :
  (cs ++ more).dropWhile (· != mark) = more.dropWhile (· != mark)
  := by
  apply List.dropWhile_append_of_pos
  intro c hc
  rw [bne_iff_ne]
  rintro rfl
  contradiction

/-! ### Neighbours -/

theorem pair_prefix_iff {a b x : Char} {xs : List Char} :
  [a, b] <+: x :: xs ↔ a = x ∧ xs.head? = some b
  := by
  rw [List.cons_prefix_cons]
  cases xs with
  | nil => simp
  | cons y xs => simp [List.cons_prefix_cons, eq_comm]

/-- Two neighbours stand in one of two texts, or where these meet. -/
theorem pair_infix_append_iff {a b : Char} {xs ys : List Char} :
  [a, b] <:+: xs ++ ys
    ↔ [a, b] <:+: xs ∨ [a, b] <:+: ys ∨ xs.getLast? = some a ∧ ys.head? = some b
  := by
  induction xs with
  | nil => simp
  | cons x xs ih =>
    rw [List.cons_append, List.infix_cons_iff, List.infix_cons_iff, ih, pair_prefix_iff,
      pair_prefix_iff]
    cases xs with
    | nil =>
      simp only [List.nil_append, List.head?_nil, List.getLast?_nil, List.getLast?_singleton,
        Option.some.injEq, List.infix_nil, reduceCtorEq]
      grind
    | cons y xs =>
      simp only [List.cons_append, List.head?_cons, List.getLast?_cons_cons]
      grind

end AnchorIndex.Text
