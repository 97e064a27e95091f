import AnchorIndex.Datum.Basic

/-!
# Comparing data

Floating point numbers cannot be compared for being equal, but all other data can. Data that compare
as the same are equal (`eq_of_same`), so what a reader answers for a given text can be checked by
computing.
-/

namespace AnchorIndex.Datum

mutual

/-- The data are the same and hold no floating point number. -/
def same : Datum → Datum → Bool
  | null, null => true
  | bool a, bool b => a == b
  | int a, int b => a == b
  | text a, text b => a == b
  | list as, list bs => sameItems as bs
  | table as, table bs => sameEntries as bs
  | mapping as, mapping bs => samePairs as bs
  | moment a, moment b => a == b
  | _, _ => false

/-- The items of two lists are the same. -/
def sameItems : List Datum → List Datum → Bool
  | [], [] => true
  | a :: as, b :: bs => same a b && sameItems as bs
  | _, _ => false

/-- The entries of two tables are the same. -/
def sameEntries : List (String × Datum) → List (String × Datum) → Bool
  | [], [] => true
  | (k, a) :: as, (l, b) :: bs => k == l && same a b && sameEntries as bs
  | _, _ => false

/-- The entries of two mappings are the same. -/
def samePairs : List (Datum × Datum) → List (Datum × Datum) → Bool
  | [], [] => true
  | (k, a) :: as, (l, b) :: bs => same k l && same a b && samePairs as bs
  | _, _ => false

end

mutual

theorem eq_of_same {a b : Datum} (h : same a b = true) :
  a = b
  := by
  cases a with
  | null => cases b <;> simp_all [same]
  | bool x => cases b <;> simp_all [same]
  | int n => cases b <;> simp_all [same]
  | real x => simp [same] at h
  | text s => cases b <;> simp_all [same]
  | list as =>
    cases b with
    | list bs =>
      rw [same] at h
      rw [eq_of_sameItems h]
    | _ => simp [same] at h
  | table as =>
    cases b with
    | table bs =>
      rw [same] at h
      rw [eq_of_sameEntries h]
    | _ => simp [same] at h
  | mapping as =>
    cases b with
    | mapping bs =>
      rw [same] at h
      rw [eq_of_samePairs h]
    | _ => simp [same] at h
  | moment m => cases b <;> simp_all [same]
termination_by structural a

theorem eq_of_sameItems {as bs : List Datum} (h : sameItems as bs = true) :
  as = bs
  := by
  cases as with
  | nil =>
    cases bs with
    | nil => rfl
    | cons b bs => simp [sameItems] at h
  | cons a as =>
    cases bs with
    | nil => simp [sameItems] at h
    | cons b bs =>
      rw [sameItems, Bool.and_eq_true] at h
      rw [eq_of_same h.1, eq_of_sameItems h.2]
termination_by structural as

theorem eq_of_sameEntries {as bs : List (String × Datum)} (h : sameEntries as bs = true) :
  as = bs
  := by
  cases as with
  | nil =>
    cases bs with
    | nil => rfl
    | cons b bs => simp [sameEntries] at h
  | cons a as =>
    obtain ⟨k, a⟩ := a
    cases bs with
    | nil => simp [sameEntries] at h
    | cons b bs =>
      obtain ⟨l, b⟩ := b
      rw [sameEntries, Bool.and_eq_true, Bool.and_eq_true] at h
      rw [eq_of_beq h.1.1, eq_of_same h.1.2, eq_of_sameEntries h.2]
termination_by structural as

theorem eq_of_samePairs {as bs : List (Datum × Datum)} (h : samePairs as bs = true) :
  as = bs
  := by
  cases as with
  | nil =>
    cases bs with
    | nil => rfl
    | cons b bs => simp [samePairs] at h
  | cons a as =>
    obtain ⟨k, a⟩ := a
    cases bs with
    | nil => simp [samePairs] at h
    | cons b bs =>
      obtain ⟨l, b⟩ := b
      rw [samePairs, Bool.and_eq_true, Bool.and_eq_true] at h
      rw [eq_of_same h.1.1, eq_of_same h.1.2, eq_of_samePairs h.2]
termination_by structural as

end

/-- A computation that gives the same datum gives the datum. -/
theorem eq_ok_of_same {ε : Type} {x : Except ε Datum} {d : Datum}
    (h : x.toOption.any (same d) = true) :
  x = .ok d
  := by
  cases x with
  | error e => contradiction
  | ok a => rw [eq_of_same h]

/-- A computation that gives the same datum, if it gives one, gives the datum. -/
theorem eq_ok_some_of_same {ε : Type} {x : Except ε (Option Datum)} {d : Datum}
    (h : x.toOption.any (·.any (same d)) = true) :
  x = .ok (some d)
  := by
  cases x with
  | error e => contradiction
  | ok a? =>
    cases a? with
    | none => contradiction
    | some a => rw [eq_of_same h]

end AnchorIndex.Datum
