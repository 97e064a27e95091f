import AnchorIndex.Store.Entities
import AnchorIndex.Proofs.Entity.Identity
import Mathlib.Data.String.Basic

/-!
# The order in which entities are listed

Listing puts the entities of a kind into the order of names, paths and first lines
(`isListed_listed`), and leaves a list that is in order as it is (`listed_eq_self`). Entities that
start on the same line keep their order: those of one logical key stay together as they were, if
they were in order (`namesakes_listed`).
-/

namespace AnchorIndex

/-! ### The order -/

namespace Entity

theorem listedBefore_iff {a b : Entity} :
  a.listedBefore b = true
    ↔ a.name < b.name ∨
        (a.name = b.name ∧ (a.path < b.path ∨ (a.path = b.path ∧ a.first ≤ b.first)))
  := by
  simp [listedBefore]

theorem listedBefore_trans (a b c : Entity) (hab : a.listedBefore b = true)
    (hbc : b.listedBefore c = true) :
  a.listedBefore c = true
  := by
  rw [listedBefore_iff] at hab hbc ⊢
  obtain hname | ⟨hname, hab⟩ := hab
  · left
    obtain hname' | ⟨hname', -⟩ := hbc
    · apply lt_trans hname hname'
    · rwa [← hname']
  · rw [hname]
    obtain hname' | ⟨hname', hbc⟩ := hbc
    · exact .inl hname'
    · right
      use hname'
      obtain hpath | ⟨hpath, hfirst⟩ := hab
      · left
        obtain hpath' | ⟨hpath', -⟩ := hbc
        · apply lt_trans hpath hpath'
        · rwa [← hpath']
      · rw [hpath]
        obtain hpath' | ⟨hpath', hfirst'⟩ := hbc
        · exact .inl hpath'
        · exact .inr ⟨hpath', Nat.le_trans hfirst hfirst'⟩

theorem listedBefore_total (a b : Entity) :
  (a.listedBefore b || b.listedBefore a) = true
  := by
  rw [Bool.or_eq_true, listedBefore_iff, listedBefore_iff]
  obtain hname | hname | hname := lt_trichotomy a.name b.name
  · exact .inl (.inl hname)
  · obtain hpath | hpath | hpath := lt_trichotomy a.path b.path
    · exact .inl (.inr ⟨hname, .inl hpath⟩)
    · obtain hfirst | hfirst := Nat.le_total a.first b.first
      · exact .inl (.inr ⟨hname, .inr ⟨hpath, hfirst⟩⟩)
      · exact .inr (.inr ⟨hname.symm, .inr ⟨hpath.symm, hfirst⟩⟩)
    · exact .inr (.inr ⟨hname.symm, .inl hpath⟩)
  · exact .inr (.inl hname)

/-- Entities of one logical key are listed by their first lines. -/
theorem listedBefore_iff_of_logicalKey_eq {a b : Entity} (h : a.logicalKey = b.logicalKey) :
  a.listedBefore b = true ↔ a.first ≤ b.first
  := by
  injection h with hkind hpath hname henclosing
  rw [listedBefore_iff, hname, hpath]
  simp

end Entity

namespace Store

/-! ### Lists in order -/

/-- The entities stand in the order in which they are listed. -/
def IsListed (es : List Entity) : Prop :=
  es.Pairwise fun a b => a.listedBefore b = true

theorem listed_perm (es : List Entity) :
  (listed es).Perm es
  := List.mergeSort_perm es Entity.listedBefore

theorem mem_listed {es : List Entity} {e : Entity} :
  e ∈ listed es ↔ e ∈ es
  := (listed_perm es).mem_iff

theorem isListed_listed (es : List Entity) :
  IsListed (listed es)
  := List.pairwise_mergeSort Entity.listedBefore_trans Entity.listedBefore_total es

theorem listed_eq_self {es : List Entity} (h : IsListed es) :
  listed es = es
  := List.mergeSort_of_pairwise h

theorem IsListed.lineOrdered {es : List Entity} (h : IsListed es) :
  LineOrdered es
  := by
  apply h.imp
  intro a b hab hkey
  exact (Entity.listedBefore_iff_of_logicalKey_eq hkey).1 hab

/-! ### Entities of one logical key -/

/-- The entities of a list with a logical key. -/
def namesakes (key : LogicalKey) (es : List Entity) : List Entity :=
  es.filter (·.logicalKey = key)

theorem mem_namesakes {key : LogicalKey} {es : List Entity} {e : Entity} :
  e ∈ namesakes key es ↔ e ∈ es ∧ e.logicalKey = key
  := by
  rw [namesakes, List.mem_filter, decide_eq_true_eq]

theorem namesakes_eq_nil_iff {key : LogicalKey} {es : List Entity} :
  namesakes key es = [] ↔ ∀ d ∈ es, d.logicalKey ≠ key
  := by
  simp [namesakes, List.filter_eq_nil_iff]

theorem namesakes_append (key : LogicalKey) (front back : List Entity) :
  namesakes key (front ++ back) = namesakes key front ++ namesakes key back
  := List.filter_append _ _

theorem namesakes_cons_self {key : LogicalKey} {d : Entity} (h : d.logicalKey = key)
    (back : List Entity) :
  namesakes key (d :: back) = d :: namesakes key back
  := by
  rw [namesakes, List.filter_cons, if_pos (by simpa using h), namesakes]

theorem namesakes_eq_cons_iff {key : LogicalKey} {es rest : List Entity} {d : Entity} :
  namesakes key es = d :: rest
    ↔ ∃ front back, es = front ++ d :: back ∧ namesakes key front = [] ∧ d.logicalKey = key ∧
        namesakes key back = rest
  := by
  rw [namesakes, List.filter_eq_cons_iff]
  constructor
  · rintro ⟨front, back, rfl, hfront, hd, hback⟩
    refine ⟨front, back, rfl, ?_, by simpa using hd, hback⟩
    rw [namesakes_eq_nil_iff]
    simpa using hfront
  · rintro ⟨front, back, rfl, hfront, hd, hback⟩
    refine ⟨front, back, rfl, ?_, by simpa using hd, hback⟩
    rw [namesakes_eq_nil_iff] at hfront
    simpa using hfront

/-- Listing leaves the order of entities of one logical key as it is, if they are in order. -/
theorem namesakes_listed {key : LogicalKey} {es : List Entity} (h : IsListed (namesakes key es)) :
  namesakes key (listed es) = namesakes key es
  := by
  have hsublist : (namesakes key es).Sublist (listed es) :=
    List.sublist_mergeSort Entity.listedBefore_trans Entity.listedBefore_total h
      List.filter_sublist
  have hfilter := hsublist.filter fun e => decide (e.logicalKey = key)
  have hself : (namesakes key es).filter (fun e => decide (e.logicalKey = key))
      = namesakes key es := by
    rw [namesakes, List.filter_filter]
    simp
  rw [hself] at hfilter
  exact (hfilter.eq_of_length ((listed_perm es).filter _).length_eq.symm).symm

/-- In a list in order, the first of the entities of one logical key starts first. -/
theorem IsListed.first_le {key : LogicalKey} {es rest : List Entity} {e : Entity}
    (h : IsListed es) (heq : namesakes key es = e :: rest) {d : Entity} (hd : d ∈ rest) :
  e.first ≤ d.first
  := by
  have hlisted : IsListed (namesakes key es) := h.sublist List.filter_sublist
  have hkey : ∀ a ∈ namesakes key es, a.logicalKey = key := fun a ha => (mem_namesakes.1 ha).2
  rw [heq] at hlisted hkey
  have hkeys : e.logicalKey = d.logicalKey := by
    rw [hkey e List.mem_cons_self, hkey d (List.mem_cons_of_mem e hd)]
  exact (Entity.listedBefore_iff_of_logicalKey_eq hkeys).1 ((List.pairwise_cons.1 hlisted).1 d hd)

end Store

end AnchorIndex
