import AnchorIndex.Entity.Identity
import Mathlib.Data.List.Nodup
import Mathlib.Data.List.Perm.Basic

/-!
# Identity keys tell entities apart

No two entities of a list have the same identity key (`nodup_identityKeys`): those that share a
logical key are ranked by their first lines, and by their positions where the lines agree. In a
list whose entities of one logical key stand in the order of their lines, the first of them has
the first rank (`ordinal_eq_zero_iff`).

Where no two entities start on one line of one file (`Apart`), the rank of an entity among those
that share its logical key is the number of these that start before it (`Entity.rankIn`), in
whatever order they are listed. So its identity key is its logical key with this rank
(`mem_zip_identityKeys_iff`).
-/

namespace AnchorIndex

namespace Entity

/-- The other entity shares the logical key and does not start after this one. -/
def hasUpTo (e d : Entity) : Bool :=
  d.logicalKey == e.logicalKey && d.first ≤ e.first

/-- The other entity shares the logical key and starts before this one. -/
def hasBefore (e d : Entity) : Bool :=
  d.logicalKey == e.logicalKey && d.first < e.first

theorem ordinal_eq (before : List Entity) (e : Entity) (after : List Entity) :
  e.ordinal before after = before.countP e.hasUpTo + after.countP e.hasBefore
  := by
  rw [ordinal, List.countP_eq_length_filter, List.countP_eq_length_filter]
  rfl

/-- The rank does not depend on the order of the entities before. -/
theorem ordinal_perm {before before' : List Entity} (h : before.Perm before') (e : Entity)
    (after : List Entity) :
  e.ordinal before after = e.ordinal before' after
  := by
  rw [ordinal_eq, ordinal_eq, h.countP_eq]

variable {d e : Entity}

theorem countP_hasUpTo_le (hkey : d.logicalKey = e.logicalKey) (hle : d.first ≤ e.first)
    (es : List Entity) :
  es.countP d.hasUpTo ≤ es.countP e.hasUpTo
  := by
  apply List.countP_mono_left
  intro x _ hx
  simp only [hasUpTo, hkey, Bool.and_eq_true, decide_eq_true_eq] at hx ⊢
  exact ⟨hx.1, Nat.le_trans hx.2 hle⟩

theorem countP_hasBefore_le (hkey : d.logicalKey = e.logicalKey) (hle : d.first ≤ e.first)
    (es : List Entity) :
  es.countP d.hasBefore ≤ es.countP e.hasBefore
  := by
  apply List.countP_mono_left
  intro x _ hx
  simp only [hasBefore, hkey, Bool.and_eq_true, decide_eq_true_eq] at hx ⊢
  exact ⟨hx.1, Nat.lt_of_lt_of_le hx.2 hle⟩

theorem countP_hasBefore_le_hasUpTo (hkey : d.logicalKey = e.logicalKey) (hle : d.first ≤ e.first)
    (es : List Entity) :
  es.countP d.hasBefore ≤ es.countP e.hasUpTo
  := by
  apply List.countP_mono_left
  intro x _ hx
  simp only [hasBefore, hasUpTo, hkey, Bool.and_eq_true, decide_eq_true_eq] at hx ⊢
  exact ⟨hx.1, Nat.le_trans (Nat.le_of_lt hx.2) hle⟩

theorem countP_hasUpTo_le_hasBefore (hkey : d.logicalKey = e.logicalKey) (hlt : d.first < e.first)
    (es : List Entity) :
  es.countP d.hasUpTo ≤ es.countP e.hasBefore
  := by
  apply List.countP_mono_left
  intro x _ hx
  simp only [hasBefore, hasUpTo, hkey, Bool.and_eq_true, decide_eq_true_eq] at hx ⊢
  exact ⟨hx.1, Nat.lt_of_le_of_lt hx.2 hlt⟩

/-- Two entities of a list that share a logical key have different ranks: the one that starts
first has the lower one, and so has the one that is listed first if they start together. -/
theorem ordinal_ne (hkey : d.logicalKey = e.logicalKey) (before front back : List Entity) :
  e.ordinal before (front ++ d :: back) ≠ d.ordinal (front.reverse ++ e :: before) back
  := by
  rw [ordinal_eq, ordinal_eq, List.countP_append, List.countP_append, List.countP_cons,
    List.countP_cons, List.countP_reverse]
  by_cases hle : e.first ≤ d.first
  · have h₁ := countP_hasUpTo_le hkey.symm hle before
    have h₂ := countP_hasBefore_le_hasUpTo hkey.symm hle front
    have h₃ := countP_hasBefore_le hkey.symm hle back
    have hd : e.hasBefore d = false := by simp [hasBefore, hle]
    have he : d.hasUpTo e = true := by simp [hasUpTo, hkey, hle]
    rw [hd, he]
    simp only [Bool.false_eq_true, if_false, if_true]
    omega
  · have hlt : d.first < e.first := Nat.lt_of_not_le hle
    have h₁ := countP_hasUpTo_le hkey (Nat.le_of_lt hlt) before
    have h₂ := countP_hasUpTo_le_hasBefore hkey hlt front
    have h₃ := countP_hasBefore_le hkey (Nat.le_of_lt hlt) back
    have hd : e.hasBefore d = true := by simp [hasBefore, hkey, hlt]
    have he : d.hasUpTo e = false := by simp [hasUpTo, hlt]
    rw [hd, he]
    simp only [Bool.false_eq_true, if_false, if_true]
    omega

end Entity

/-! ### Keys of a list -/

/-- The key of an entity in a list is its logical key with its rank there. -/
theorem mem_zip_identityKeysFrom {before es : List Entity} {key : IdentityKey} {e : Entity} :
  (key, e) ∈ (identityKeysFrom before es).zip es
    ↔ ∃ front back, es = front ++ e :: back ∧
        key = ⟨e.logicalKey, e.ordinal (front.reverse ++ before) back⟩
  := by
  induction es generalizing before with
  | nil => simp [identityKeysFrom]
  | cons a after ih =>
    rw [identityKeysFrom, List.zip_cons_cons, List.mem_cons, ih]
    constructor
    · rintro (h | ⟨front, back, rfl, rfl⟩)
      · cases h
        exact ⟨[], after, rfl, rfl⟩
      · exact ⟨a :: front, back, rfl, by simp⟩
    · rintro ⟨front, back, heq, rfl⟩
      cases front with
      | nil =>
        cases heq
        exact .inl rfl
      | cons b front =>
        cases heq
        exact .inr ⟨front, back, rfl, by simp⟩

theorem nodup_identityKeysFrom (before es : List Entity) :
  (identityKeysFrom before es).Nodup
  := by
  induction es generalizing before with
  | nil => exact List.nodup_nil
  | cons e after ih =>
    rw [identityKeysFrom, List.nodup_cons]
    refine ⟨?_, ih (e :: before)⟩
    intro hmem
    have hlength := length_identityKeysFrom (e :: before) after
    obtain ⟨d, hd⟩ : ∃ d, (⟨e.logicalKey, e.ordinal before after⟩, d)
        ∈ (identityKeysFrom (e :: before) after).zip after := by
      rw [← List.map_fst_zip (Nat.le_of_eq hlength)] at hmem
      obtain ⟨⟨key, d⟩, hd, rfl⟩ := List.mem_map.1 hmem
      exact ⟨d, hd⟩
    obtain ⟨front, back, rfl, heq⟩ := mem_zip_identityKeysFrom.1 hd
    injection heq with hkey hordinal
    apply Entity.ordinal_ne hkey.symm before front back hordinal

/-- No two entities of a list have the same identity key. -/
theorem nodup_identityKeys (es : List Entity) :
  (identityKeys es).Nodup
  := nodup_identityKeysFrom [] es

theorem mem_zip_identityKeys {es : List Entity} {key : IdentityKey} {e : Entity} :
  (key, e) ∈ (identityKeys es).zip es
    ↔ ∃ front back, es = front ++ e :: back ∧ key = ⟨e.logicalKey, e.ordinal front back⟩
  := by
  rw [identityKeys, mem_zip_identityKeysFrom]
  constructor
  · rintro ⟨front, back, rfl, rfl⟩
    refine ⟨front, back, rfl, ?_⟩
    rw [List.append_nil, Entity.ordinal_perm front.reverse_perm]
  · rintro ⟨front, back, rfl, rfl⟩
    refine ⟨front, back, rfl, ?_⟩
    rw [List.append_nil, Entity.ordinal_perm front.reverse_perm]

/-- The key of an entity stands between the keys of the entities around it. -/
theorem zip_identityKeysFrom_append (before front : List Entity) (e : Entity)
    (back : List Entity) :
  ∃ a b, (identityKeysFrom before (front ++ e :: back)).zip (front ++ e :: back)
      = a ++ (⟨e.logicalKey, e.ordinal (front.reverse ++ before) back⟩, e) :: b ∧
    a.map Prod.snd = front ∧ b.map Prod.snd = back
  := by
  induction front generalizing before with
  | nil =>
    refine ⟨[], (identityKeysFrom (e :: before) back).zip back, rfl, rfl, ?_⟩
    apply List.map_snd_zip (Nat.le_of_eq (length_identityKeysFrom (e :: before) back).symm)
  | cons x front ih =>
    obtain ⟨a, b, hzip, ha, hb⟩ := ih (x :: before)
    refine ⟨(⟨x.logicalKey, x.ordinal before (front ++ e :: back)⟩, x) :: a, b, ?_, ?_, hb⟩
    · rw [List.cons_append, identityKeysFrom, List.zip_cons_cons, hzip]
      simp
    · rw [List.map_cons, ha]

theorem zip_identityKeys_append (front : List Entity) (e : Entity) (back : List Entity) :
  ∃ a b, (identityKeys (front ++ e :: back)).zip (front ++ e :: back)
      = a ++ (⟨e.logicalKey, e.ordinal front back⟩, e) :: b ∧
    a.map Prod.snd = front ∧ b.map Prod.snd = back
  := by
  have h := zip_identityKeysFrom_append [] front e back
  rwa [List.append_nil, Entity.ordinal_perm front.reverse_perm] at h

/-! ### The first rank -/

/-- Entities of one logical key stand in the order of their first lines. -/
def LineOrdered (es : List Entity) : Prop :=
  es.Pairwise fun d e => d.logicalKey = e.logicalKey → d.first ≤ e.first

/-- Where entities of one logical key stand in the order of their lines, the first of them has the
first rank. -/
theorem Entity.ordinal_eq_zero_iff {front back : List Entity} {e : Entity}
    (h : LineOrdered (front ++ e :: back)) :
  e.ordinal front back = 0 ↔ ∀ d ∈ front, d.logicalKey ≠ e.logicalKey
  := by
  obtain ⟨-, hback, hfront⟩ := List.pairwise_append.1 h
  have hnone : back.countP e.hasBefore = 0 := by
    rw [List.countP_eq_zero]
    intro d hd hbefore
    simp only [hasBefore, Bool.and_eq_true, beq_iff_eq, decide_eq_true_eq] at hbefore
    have hle := (List.pairwise_cons.1 hback).1 d hd hbefore.1.symm
    omega
  rw [ordinal_eq, hnone, Nat.add_zero, List.countP_eq_zero]
  constructor
  · intro hcount d hd hkey
    apply hcount d hd
    have hle := hfront d hd e List.mem_cons_self hkey
    simp [hasUpTo, hkey, hle]
  · intro hne d hd hupTo
    simp only [hasUpTo, Bool.and_eq_true, beq_iff_eq] at hupTo
    apply hne d hd hupTo.1

end AnchorIndex

namespace AnchorIndex

/-! ### Ranks -/

/-- No two entities of the list start on one line of one file. -/
def Apart (es : List Entity) : Prop :=
  (es.map fun e => (e.path, e.first)).Nodup

namespace Entity

/-- The rank of an entity in a list: the number of entities with its logical key that start before
it. -/
def rankIn (es : List Entity) (e : Entity) : Nat :=
  es.countP e.hasBefore

/-- The identity key of an entity in a list. -/
def keyIn (es : List Entity) (e : Entity) : IdentityKey :=
  ⟨e.logicalKey, e.rankIn es⟩

variable {es es' : List Entity} {d e : Entity}

theorem keyIn_perm (h : es.Perm es') (e : Entity) :
  e.keyIn es = e.keyIn es'
  := by
  rw [keyIn, keyIn, rankIn, rankIn, h.countP_eq]

/-- Keys do not depend on identities. -/
theorem keyIn_map_withId (es : List Entity) (e : Entity) (id : String) :
  e.keyIn (es.map (·.withId id)) = e.keyIn es
  := by
  rw [keyIn, keyIn, rankIn, rankIn, List.countP_map]
  rfl

theorem keyIn_eq_iff :
  d.keyIn es = e.keyIn es' ↔ d.logicalKey = e.logicalKey ∧ d.rankIn es = e.rankIn es'
  := by
  rw [keyIn, keyIn, IdentityKey.mk.injEq]

theorem path_eq_of_logicalKey_eq (h : d.logicalKey = e.logicalKey) :
  d.path = e.path
  := congrArg LogicalKey.path h

end Entity

theorem Apart.perm {es es' : List Entity} (h : Apart es) (hperm : es'.Perm es) :
  Apart es'
  := (hperm.map _).nodup_iff.2 h

/-- Whether entities are apart does not depend on their identities. -/
theorem apart_map_withId {es : List Entity} (id : String) :
  Apart (es.map (·.withId id)) ↔ Apart es
  := by
  rw [Apart, List.map_map]
  exact Iff.rfl

section

variable {es front back : List Entity} {d e : Entity}

/-- Where entities are apart, those listed before an entity that do not start after it start before
it. -/
theorem Apart.ordinal_eq (h : Apart (front ++ e :: back)) :
  e.ordinal front back = e.rankIn (front ++ e :: back)
  := by
  rw [Apart, List.map_append, List.map_cons, List.nodup_append] at h
  have hself : e.hasBefore e = false := by simp [Entity.hasBefore]
  have hfront : front.countP e.hasUpTo = front.countP e.hasBefore := by
    apply List.countP_congr
    intro d hd
    have hne := h.2.2 _ (List.mem_map_of_mem hd) _ List.mem_cons_self
    simp only [Entity.hasUpTo, Entity.hasBefore, Bool.and_eq_true, beq_iff_eq, decide_eq_true_eq]
    constructor
    · rintro ⟨hkey, hle⟩
      refine ⟨hkey, Nat.lt_of_le_of_ne hle ?_⟩
      intro hfirst
      apply hne
      rw [hfirst, Entity.path_eq_of_logicalKey_eq hkey]
    · rintro ⟨hkey, hlt⟩
      exact ⟨hkey, Nat.le_of_lt hlt⟩
  rw [Entity.ordinal_eq, Entity.rankIn, List.countP_append, List.countP_cons, hself, hfront]
  simp

/-- Where entities are apart, the key of each of them is its identity key. -/
theorem mem_zip_identityKeys_iff (h : Apart es) {key : IdentityKey} :
  (key, e) ∈ (identityKeys es).zip es ↔ e ∈ es ∧ key = e.keyIn es
  := by
  rw [mem_zip_identityKeys]
  constructor
  · rintro ⟨front, back, rfl, rfl⟩
    rw [h.ordinal_eq]
    exact ⟨List.mem_append_right front List.mem_cons_self, rfl⟩
  · rintro ⟨he, rfl⟩
    obtain ⟨front, back, rfl⟩ := List.append_of_mem he
    refine ⟨front, back, rfl, ?_⟩
    rw [h.ordinal_eq]
    rfl

/-- Entities that are apart have different keys. -/
theorem Apart.eq_of_keyIn_eq (h : Apart es) (hd : d ∈ es) (he : e ∈ es)
    (hkey : d.keyIn es = e.keyIn es) :
  d = e
  := by
  have hkeys : (((identityKeys es).zip es).map Prod.fst).Nodup := by
    rw [List.map_fst_zip (Nat.le_of_eq (length_identityKeys es))]
    apply nodup_identityKeys
  have hd' := (mem_zip_identityKeys_iff h).2 ⟨hd, rfl⟩
  have he' := (mem_zip_identityKeys_iff h).2 ⟨he, rfl⟩
  exact (Prod.mk.inj (List.inj_on_of_nodup_map hkeys hd' he' hkey)).2

end

/-! ### Files -/

/-- What an entity shows of where it stands. -/
def Entity.standing (e : Entity) : LogicalKey × Nat × Nat :=
  (e.logicalKey, e.first, e.last)

/-- The rank of an entity depends on where the entities of its file stand. -/
theorem Entity.rankIn_eq_of_standing {es es' : List Entity} {d e : Entity}
    (hsame : d.standing = e.standing)
    (hfile : ((es.filter (·.path == d.path)).map standing).Perm
      ((es'.filter (·.path == e.path)).map standing)) :
  d.rankIn es = e.rankIn es'
  := by
  have hrank : ∀ (e : Entity) (es : List Entity),
      e.rankIn es = ((es.filter (·.path == e.path)).map standing).countP
        fun s => s.1 == e.standing.1 && s.2.1 < e.standing.2.1 := by
    intro e es
    rw [rankIn, List.countP_map, List.countP_filter]
    apply List.countP_congr
    intro d _
    simp only [hasBefore, standing, Function.comp_apply, Bool.and_eq_true, beq_iff_eq]
    constructor
    · intro h
      exact ⟨h, path_eq_of_logicalKey_eq h.1⟩
    · exact And.left
  rw [hrank d, hrank e, hsame, hfile.countP_eq]

end AnchorIndex
