import Mathlib.Data.List.Forall2

/-!
# Computations along a list

A computation that may fail is done for the items of a list one after another. It succeeds for the
list exactly if it succeeds for every item (`mapM_eq_ok_iff`), and what each step of a fold
preserves the whole fold preserves (`foldlM_preserves`).
-/

namespace AnchorIndex

variable {ε α β : Type}

theorem bind_eq_ok_iff {x : Except ε α} {f : α → Except ε β} {b : β} :
  x >>= f = .ok b ↔ ∃ a, x = .ok a ∧ f a = .ok b
  := by
  cases x with
  | error e =>
    constructor
    · intro h
      cases h
    · rintro ⟨a, h, -⟩
      cases h
  | ok a =>
    constructor
    · intro h
      exact ⟨a, rfl, h⟩
    · rintro ⟨_, h, hf⟩
      cases h
      apply hf

theorem mapError_eq_ok_iff {ε' : Type} {f : ε → ε'} {x : Except ε α} {a : α} :
  x.mapError f = .ok a ↔ x = .ok a
  := by
  cases x with
  | error e =>
    constructor
    · intro h
      cases h
    · intro h
      cases h
  | ok b =>
    constructor
    · intro h
      cases h
      rfl
    · intro h
      cases h
      rfl

theorem exists_of_map_toOption {x : Except ε α} {f : α → β} {v : β}
    (h : x.toOption.map f = some v) :
  ∃ a, x = .ok a ∧ f a = v
  := by
  cases x with
  | error failure => contradiction
  | ok a => exact ⟨a, rfl, Option.some.inj h⟩

/-- A computation succeeds for the items of a list if and only if it succeeds for each. -/
theorem mapM_eq_ok_iff {f : α → Except ε β} {xs : List α} {ys : List β} :
  xs.mapM f = .ok ys ↔ List.Forall₂ (fun x y => f x = .ok y) xs ys
  := by
  induction xs generalizing ys with
  | nil =>
    rw [List.mapM_nil, List.forall₂_nil_left_iff]
    constructor
    · intro h
      cases h
      rfl
    · rintro rfl
      rfl
  | cons x xs ih =>
    rw [List.mapM_cons, bind_eq_ok_iff, List.forall₂_cons_left_iff]
    constructor
    · rintro ⟨y, hy, h⟩
      obtain ⟨ys', hys', h'⟩ := bind_eq_ok_iff.1 h
      cases h'
      exact ⟨y, ys', hy, ih.1 hys', rfl⟩
    · rintro ⟨y, ys', hy, hys', rfl⟩
      exact ⟨y, hy, bind_eq_ok_iff.2 ⟨ys', ih.2 hys', rfl⟩⟩

/-- Where every item gives just the results that a relation allows, so does the list. -/
theorem mapM_eq_ok_iff_of_forall₂ {γ : Type} {R : γ → β → Prop} {f : α → Except ε β}
    {zs : List γ} {xs : List α} (h : List.Forall₂ (fun z x => ∀ y, f x = .ok y ↔ R z y) zs xs)
    {ys : List β} :
  xs.mapM f = .ok ys ↔ List.Forall₂ R zs ys
  := by
  rw [mapM_eq_ok_iff]
  induction h generalizing ys with
  | nil => rw [List.forall₂_nil_left_iff, List.forall₂_nil_left_iff]
  | cons hx _ ih => simp only [List.forall₂_cons_left_iff, hx, ih]

/-- A computation that succeeds on every item of a list gives the list of its results. -/
theorem mapM_eq_ok_map {f : α → Except ε β} {g : α → β} {xs : List α}
    (h : ∀ x ∈ xs, f x = .ok (g x)) :
  xs.mapM f = .ok (xs.map g)
  := by
  rw [mapM_eq_ok_iff, List.forall₂_map_right_iff, List.forall₂_same]
  apply h

section

variable {R : α → β → Prop} {xs : List α} {ys : List β}

/-- Along two related lists, every item of the first one is related to one of the second one. -/
theorem exists_of_forall₂_left (h : List.Forall₂ R xs ys) {x : α} (hx : x ∈ xs) :
  ∃ y ∈ ys, R x y
  := by
  induction h with
  | nil => contradiction
  | @cons x' y xs ys hy _ ih =>
    obtain rfl | hx := List.mem_cons.1 hx
    · exact ⟨y, List.mem_cons_self, hy⟩
    · obtain ⟨y', hy', hrel⟩ := ih hx
      exact ⟨y', List.mem_cons_of_mem y hy', hrel⟩

theorem exists_of_forall₂_right (h : List.Forall₂ R xs ys) {y : β} (hy : y ∈ ys) :
  ∃ x ∈ xs, R x y
  := exists_of_forall₂_left h.flip hy

/-- At the place of an item of the first list there is one of the second list, and it is related to
it. -/
theorem exists_of_forall₂_getElem? (h : List.Forall₂ R xs ys) {i : Nat} {x : α}
    (hx : xs[i]? = some x) :
  ∃ y, ys[i]? = some y ∧ R x y
  := by
  induction h generalizing i with
  | nil => contradiction
  | @cons x' y xs ys hy _ ih =>
    cases i with
    | zero =>
      cases hx
      exact ⟨y, rfl, hy⟩
    | succ i => exact ih hx

/-- A list each item of which is related to something is related to a list. -/
theorem exists_forall₂_of_forall (h : ∀ x ∈ xs, ∃ y, R x y) :
  ∃ ys, List.Forall₂ R xs ys
  := by
  induction xs with
  | nil => exact ⟨[], .nil⟩
  | cons x xs ih =>
    obtain ⟨⟨y, hy⟩, hxs⟩ := List.forall_mem_cons.1 h
    obtain ⟨ys, hys⟩ := ih hxs
    exact ⟨y :: ys, .cons hy hys⟩

/-- Two lists that relate to one list in between are related. -/
theorem forall₂_trans {γ : Type} {S : β → γ → Prop} {T : α → γ → Prop}
    (hT : ∀ x y z, R x y → S y z → T x z) (h : List.Forall₂ R xs ys) {zs : List γ}
    (hzs : List.Forall₂ S ys zs) :
  List.Forall₂ T xs zs
  := by
  induction h generalizing zs with
  | nil =>
    cases hzs
    exact .nil
  | cons hxy _ ih =>
    cases hzs with
    | cons hyz hzs => exact .cons (hT _ _ _ hxy hyz) (ih hzs)

end

/-- Every result of a computation along a list is that of an item. -/
theorem exists_of_mem_mapM {f : α → Except ε β} {xs : List α} {ys : List β}
    (h : xs.mapM f = .ok ys) {y : β} (hy : y ∈ ys) :
  ∃ x ∈ xs, f x = .ok y
  := exists_of_forall₂_right (mapM_eq_ok_iff.1 h) hy

/-- Every item has a result if there are results for the whole list. -/
theorem exists_of_mem_of_mapM {f : α → Except ε β} {xs : List α} {ys : List β}
    (h : xs.mapM f = .ok ys) {x : α} (hx : x ∈ xs) :
  ∃ y ∈ ys, f x = .ok y
  := exists_of_forall₂_left (mapM_eq_ok_iff.1 h) hx

/-- What every successful step of a fold preserves, the fold preserves. -/
theorem foldlM_preserves {f : β → α → Except ε β} {P : β → Prop} {xs : List α}
    (hstep : ∀ x ∈ xs, ∀ b b', P b → f b x = .ok b' → P b') {b b' : β} (hb : P b)
    (h : xs.foldlM f b = .ok b') :
  P b'
  := by
  induction xs generalizing b with
  | nil =>
    cases h
    apply hb
  | cons x xs ih =>
    rw [List.foldlM_cons] at h
    obtain ⟨b₁, hx, hrest⟩ := bind_eq_ok_iff.1 h
    apply ih _ (hstep x List.mem_cons_self b b₁ hb hx) hrest
    intro y hy
    apply hstep y (List.mem_cons_of_mem x hy)

/-- A fold along the pieces of several items fails if it fails on the pieces of one. -/
theorem foldlM_flatMap_ne_ok {γ : Type} {f : β → α → Except ε β} {g : γ → List α} {cs : List γ}
    {c : γ} (hc : c ∈ cs) (hfail : ∀ b b', (g c).foldlM f b ≠ .ok b') (b b' : β) :
  (cs.flatMap g).foldlM f b ≠ .ok b'
  := by
  obtain ⟨front, back, rfl⟩ := List.append_of_mem hc
  intro h
  rw [List.flatMap_append, List.flatMap_cons, List.foldlM_append] at h
  obtain ⟨b₁, -, h⟩ := bind_eq_ok_iff.1 h
  rw [List.foldlM_append] at h
  obtain ⟨b₂, hb₂, -⟩ := bind_eq_ok_iff.1 h
  apply hfail b₁ b₂ hb₂

/-- Two lists that relate to one list, element by element, agree in what the relations determine. -/
theorem map_eq_of_forall₂ {α β γ δ : Type} {R : α → β → Prop} {S : α → γ → Prop} {f : β → δ}
    {g : γ → δ} (h : ∀ a b c, R a b → S a c → f b = g c) {l : List α} {bs : List β}
    {cs : List γ} (hbs : List.Forall₂ R l bs) (hcs : List.Forall₂ S l cs) :
  bs.map f = cs.map g
  := by
  induction hbs generalizing cs with
  | nil =>
    cases hcs
    rfl
  | cons hab _ ih =>
    cases hcs with
    | cons hac hcs => rw [List.map_cons, List.map_cons, h _ _ _ hab hac, ih hcs]

end AnchorIndex
