import AnchorIndex.Datum.Basic
import Mathlib.Data.List.Nodup

/-!
# Entries under keys

Entries are looked up by their keys. Where no key stands twice, an entry is found exactly if it is
there (`lookup_eq_some_iff_mem`). Setting entries one after another (`mergeRepeated`) leaves each
key with the last value it was given (`lookup_mergeRepeated`), and each key once.
-/

namespace AnchorIndex

variable {κ α : Type} [DecidableEq κ]

/-! ### Looking up -/

theorem lookup_cons_eq_ite (k k' : κ) (v : α) (es : List (κ × α)) :
  ((k', v) :: es).lookup k = if k = k' then some v else es.lookup k
  := by
  rw [List.lookup_cons]
  by_cases hk : k = k'
  · simp [hk]
  · have hbeq : (k == k') = false := by simpa using hk
    rw [hbeq, if_neg hk]

/-- What is found is there. -/
theorem mem_of_lookup_eq_some {es : List (κ × α)} {k : κ} {v : α} (h : es.lookup k = some v) :
  (k, v) ∈ es
  := by
  obtain ⟨before, after, rfl, -⟩ := List.lookup_eq_some_iff.1 h
  simp

/-- Something is found under the keys that are there. -/
theorem isSome_lookup_iff {es : List (κ × α)} {k : κ} :
  (es.lookup k).isSome ↔ k ∈ es.map Prod.fst
  := by
  induction es with
  | nil => simp
  | cons e es ih =>
    obtain ⟨k', v⟩ := e
    rw [lookup_cons_eq_ite, List.map_cons, List.mem_cons, ← ih]
    by_cases hk : k = k' <;> simp [hk]

/-- Where no key stands twice, an entry is found if and only if it is there. -/
theorem lookup_eq_some_iff_mem {es : List (κ × α)} (hn : (es.map Prod.fst).Nodup) {k : κ} {v : α} :
  es.lookup k = some v ↔ (k, v) ∈ es
  := by
  constructor
  · apply mem_of_lookup_eq_some
  · intro h
    obtain ⟨before, after, rfl⟩ := List.append_of_mem h
    apply List.lookup_eq_some_iff.2
    use before, after, rfl
    intro p hp
    rw [List.map_append, List.nodup_append] at hn
    have hne := hn.2.2 p.1 (List.mem_map_of_mem hp) k (by simp)
    simpa using Ne.symm hne

/-- Entries in another order are found the same way where no key stands twice. -/
theorem lookup_eq_of_perm {es es' : List (κ × α)} (h : es.Perm es') (hn : (es.map Prod.fst).Nodup)
    (k : κ) :
  es.lookup k = es'.lookup k
  := by
  have hn' : (es'.map Prod.fst).Nodup := (h.map Prod.fst).nodup_iff.1 hn
  apply Option.ext
  intro v
  rw [lookup_eq_some_iff_mem hn, lookup_eq_some_iff_mem hn', h.mem_iff]

theorem lookup_reverse {es : List (κ × α)} (hn : (es.map Prod.fst).Nodup) (k : κ) :
  es.reverse.lookup k = es.lookup k
  := (lookup_eq_of_perm es.reverse_perm.symm hn k).symm

/-- The value under a key, where all values are changed, is the changed one. -/
theorem lookup_map_snd {β : Type} (f : α → β) (es : List (κ × α)) (k : κ) :
  (es.map (Prod.map id f)).lookup k = (es.lookup k).map f
  := by
  induction es with
  | nil => rfl
  | cons e es ih =>
    obtain ⟨k', v⟩ := e
    rw [List.map_cons, Prod.map_apply, id, lookup_cons_eq_ite, lookup_cons_eq_ite, ih]
    split <;> rfl

/-! ### Setting -/

/-- Under a key that is set stands its new value, and under the others what stood there. -/
theorem lookup_setEntry (key : String) (value : α) (es : List (String × α)) (k : String) :
  (setEntry key value es).lookup k = if k = key then some value else es.lookup k
  := by
  induction es with
  | nil => rw [setEntry, lookup_cons_eq_ite]
  | cons e es ih =>
    obtain ⟨k', v⟩ := e
    rw [setEntry]
    by_cases hk' : k' = key
    · subst hk'
      rw [if_pos rfl, lookup_cons_eq_ite, lookup_cons_eq_ite]
      by_cases hk : k = k'
      · rw [if_pos hk, if_pos hk]
      · rw [if_neg hk, if_neg hk, if_neg hk]
    · rw [if_neg hk', lookup_cons_eq_ite, lookup_cons_eq_ite, ih]
      by_cases hk : k = k'
      · subst hk
        simp [hk']
      · simp [hk]

/-- A value that stands in a list after an entry is set is the new one, or stood in it before. -/
theorem mem_of_mem_map_snd_setEntry {key : String} {value v : α} {es : List (String × α)}
    (h : v ∈ (setEntry key value es).map Prod.snd) :
  v = value ∨ v ∈ es.map Prod.snd
  := by
  induction es with
  | nil => exact .inl (List.mem_singleton.1 h)
  | cons e es ih =>
    rw [setEntry] at h
    split at h
    · obtain rfl | h := List.mem_cons.1 h
      · exact .inl rfl
      · exact .inr (List.mem_cons_of_mem _ h)
    · obtain rfl | h := List.mem_cons.1 h
      · exact .inr List.mem_cons_self
      · obtain rfl | h := ih h
        · exact .inl rfl
        · exact .inr (List.mem_cons_of_mem _ h)

/-- The keys after setting a value: a new one comes last. -/
theorem map_fst_setEntry (key : String) (value : α) (es : List (String × α)) :
  (setEntry key value es).map Prod.fst
    = if key ∈ es.map Prod.fst then es.map Prod.fst else es.map Prod.fst ++ [key]
  := by
  induction es with
  | nil => simp [setEntry]
  | cons e es ih =>
    obtain ⟨k, v⟩ := e
    rw [setEntry]
    by_cases hk : k = key
    · simp [hk]
    · rw [if_neg hk, List.map_cons, ih]
      by_cases hmem : key ∈ es.map Prod.fst
      · have : key ∈ (((k, v) :: es).map Prod.fst) := List.mem_cons_of_mem k hmem
        rw [if_pos hmem, if_pos this]
        rfl
      · have : key ∉ (((k, v) :: es).map Prod.fst) := by
          rw [List.map_cons, List.mem_cons, not_or]
          exact ⟨Ne.symm hk, hmem⟩
        rw [if_neg hmem, if_neg this]
        rfl

theorem nodup_setEntry (key : String) (value : α) {es : List (String × α)}
    (h : (es.map Prod.fst).Nodup) :
  ((setEntry key value es).map Prod.fst).Nodup
  := by
  rw [map_fst_setEntry]
  split
  · apply h
  next hmem =>
    apply List.nodup_append.2
    refine ⟨h, List.nodup_singleton key, ?_⟩
    rintro k hk _ hkey rfl
    rw [List.mem_singleton.1 hkey] at hk
    apply hmem hk

/-- A value under a new key comes last. -/
theorem setEntry_of_notMem {key : String} (value : α) {es : List (String × α)}
    (h : key ∉ es.map Prod.fst) :
  setEntry key value es = es ++ [(key, value)]
  := by
  induction es with
  | nil => rfl
  | cons e es ih =>
    obtain ⟨k, v⟩ := e
    rw [List.map_cons, List.mem_cons, not_or] at h
    rw [setEntry, if_neg (Ne.symm h.1), ih h.2, List.cons_append]

/-- Values under new keys come last, in their order. -/
theorem foldl_setEntry_of_nodup {β : Type} (key : β → String) (value : β → α) (xs : List β)
    {es : List (String × α)} (h : (es.map Prod.fst ++ xs.map key).Nodup) :
  xs.foldl (fun acc x => setEntry (key x) (value x) acc) es
    = es ++ xs.map fun x => (key x, value x)
  := by
  induction xs generalizing es with
  | nil => simp
  | cons x xs ih =>
    have hnew : key x ∉ es.map Prod.fst := by
      intro hmem
      apply (List.nodup_append.1 h).2.2 _ hmem (key x) List.mem_cons_self rfl
    rw [List.foldl_cons, setEntry_of_notMem _ hnew, ih]
    · simp
    · rw [List.map_append, List.append_assoc]
      exact h

/-- Entries set one after another: a key has the last value that it was given, or what it had. -/
theorem lookup_foldl_setEntry {β : Type} (key : β → String) (value : β → α) (xs : List β)
    (es : List (String × α)) (k : String) :
  (xs.foldl (fun acc x => setEntry (key x) (value x) acc) es).lookup k
    = ((xs.reverse.map fun x => (key x, value x)).lookup k).or (es.lookup k)
  := by
  induction xs generalizing es with
  | nil => simp
  | cons x xs ih =>
    rw [List.foldl_cons, ih, lookup_setEntry, List.reverse_cons, List.map_append,
      List.lookup_append, Option.or_assoc]
    congr 1
    rw [List.map_singleton, lookup_cons_eq_ite]
    by_cases hk : k = key x <;> simp [hk]

theorem nodup_foldl_setEntry {β : Type} (key : β → String) (value : β → α) (xs : List β)
    {es : List (String × α)} (h : (es.map Prod.fst).Nodup) :
  ((xs.foldl (fun acc x => setEntry (key x) (value x) acc) es).map Prod.fst).Nodup
  := by
  induction xs generalizing es with
  | nil => exact h
  | cons x xs ih => exact ih (nodup_setEntry (key x) (value x) h)

/-- Of several values of a key the last one counts. -/
theorem lookup_mergeRepeated (es : List (String × α)) (k : String) :
  (mergeRepeated es).lookup k = es.reverse.lookup k
  := by
  rw [mergeRepeated]
  have h := lookup_foldl_setEntry Prod.fst Prod.snd es [] k
  simpa using h

end AnchorIndex
