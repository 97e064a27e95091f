import AnchorIndex.CallGraph.Calls
import Mathlib.Data.List.Nodup

/-!
# Ordered sets of texts

The texts of an ordered set are in increasing order (`pairwise_orderedSet`), each of them once
(`nodup_orderedSet`), so ordering them again changes nothing (`orderedSet_orderedSet`).
-/

namespace AnchorIndex

/-! ### Repetitions -/

section

variable {α : Type} [DecidableEq α]

theorem eraseRepsBy_loop_eq (a : α) (xs acc : List α) :
  List.eraseRepsBy.loop (· == ·) a xs acc = acc.reverse ++ (a :: xs).eraseReps
  := by
  induction xs generalizing a acc with
  | nil => simp [List.eraseReps, List.eraseRepsBy, List.eraseRepsBy.loop]
  | cons b xs ih =>
    rw [List.eraseReps, List.eraseRepsBy, List.eraseRepsBy.loop, List.eraseRepsBy.loop]
    split
    · rw [ih, ih]
      simp
    · rw [ih, ih]
      simp

theorem eraseReps_cons_cons (a b : α) (xs : List α) :
  (a :: b :: xs).eraseReps
    = if a = b then (b :: xs).eraseReps else a :: (b :: xs).eraseReps
  := by
  rw [List.eraseReps, List.eraseRepsBy, List.eraseRepsBy.loop]
  by_cases h : a = b
  · subst h
    simp [eraseRepsBy_loop_eq]
  · have hbeq : (a == b) = false := by simpa using h
    simp only [hbeq, eraseRepsBy_loop_eq, if_neg h]
    rfl

theorem eraseReps_sublist (xs : List α) :
  xs.eraseReps.Sublist xs
  := by
  induction xs with
  | nil => exact List.Sublist.refl []
  | cons a xs ih =>
    cases xs with
    | nil => exact List.Sublist.refl [a]
    | cons b xs =>
      rw [eraseReps_cons_cons]
      split
      · apply ih.cons a
      · apply ih.cons_cons a

theorem mem_eraseReps {a : α} {xs : List α} :
  a ∈ xs.eraseReps ↔ a ∈ xs
  := by
  constructor
  · intro h
    exact (eraseReps_sublist xs).subset h
  · intro h
    induction xs with
    | nil => contradiction
    | cons b xs ih =>
      cases xs with
      | nil => exact h
      | cons c xs =>
        rw [eraseReps_cons_cons]
        split
        next hb =>
          subst hb
          apply ih
          simpa using h
        · obtain rfl | h := List.mem_cons.1 h
          · apply List.mem_cons_self
          · apply List.mem_cons_of_mem b (ih h)

/-- Without repetitions next to each other nothing is erased. -/
theorem eraseReps_of_nodup {xs : List α} (h : xs.Nodup) :
  xs.eraseReps = xs
  := by
  induction xs with
  | nil => rfl
  | cons a xs ih =>
    cases xs with
    | nil => rfl
    | cons b xs =>
      rw [List.nodup_cons] at h
      have hab : a ≠ b := by
        rintro rfl
        apply h.1 List.mem_cons_self
      rw [eraseReps_cons_cons, if_neg hab, ih h.2]

end

/-! ### Ordered sets -/

/-- In increasing order equal texts stand next to each other, so one of each is left. -/
theorem nodup_eraseReps {xs : List String} (h : xs.Pairwise (· ≤ ·)) :
  xs.eraseReps.Nodup
  := by
  induction xs with
  | nil => exact List.nodup_nil
  | cons a xs ih =>
    cases xs with
    | nil => exact List.nodup_singleton a
    | cons b xs =>
      rw [eraseReps_cons_cons]
      have hrest := List.pairwise_cons.1 h
      split
      · apply ih hrest.2
      next hab =>
        rw [List.nodup_cons, mem_eraseReps]
        refine ⟨?_, ih hrest.2⟩
        intro hmem
        apply hab
        apply String.le_antisymm (hrest.1 b List.mem_cons_self)
        obtain rfl | hmem := List.mem_cons.1 hmem
        · apply String.le_refl a
        · exact (List.pairwise_cons.1 hrest.2).1 a hmem

theorem pairwise_mergeSort_texts (xs : List String) :
  (xs.mergeSort fun a b => a ≤ b).Pairwise (· ≤ ·)
  := by
  have htrans : ∀ a b c : String, decide (a ≤ b) = true → decide (b ≤ c) = true →
      decide (a ≤ c) = true := by
    intro a b c hab hbc
    simp only [decide_eq_true_eq] at hab hbc ⊢
    apply String.le_trans hab hbc
  have htotal : ∀ a b : String, (decide (a ≤ b) || decide (b ≤ a)) = true := by
    intro a b
    simpa using String.le_total a b
  simpa using List.pairwise_mergeSort htrans htotal xs

theorem pairwise_orderedSet (xs : List String) :
  (orderedSet xs).Pairwise (· ≤ ·)
  := (pairwise_mergeSort_texts xs).sublist (eraseReps_sublist _)

theorem nodup_orderedSet (xs : List String) :
  (orderedSet xs).Nodup
  := nodup_eraseReps (pairwise_mergeSort_texts xs)

theorem mem_orderedSet {s : String} {xs : List String} :
  s ∈ orderedSet xs ↔ s ∈ xs
  := by
  rw [orderedSet, mem_eraseReps, List.mem_mergeSort]

/-- Texts in increasing order, each of them once, are an ordered set as they are. -/
theorem orderedSet_eq_self {xs : List String} (hp : xs.Pairwise (· ≤ ·)) (hn : xs.Nodup) :
  orderedSet xs = xs
  := by
  rw [orderedSet, List.mergeSort_of_pairwise (by simpa using hp), eraseReps_of_nodup hn]

/-- An ordered set is ordered already. -/
@[simp]
theorem orderedSet_orderedSet (xs : List String) :
  orderedSet (orderedSet xs) = orderedSet xs
  := orderedSet_eq_self (pairwise_orderedSet xs) (nodup_orderedSet xs)

end AnchorIndex
