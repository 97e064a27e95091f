import AnchorIndex.Proofs.Entity.Identity
import AnchorIndex.Proofs.Store.Linking

/-!
# Identities that are renewed

Where entities are apart, a batch that takes the place of all entities of a kind gives each of its
entities the identity of the one with its key, or else one that was not taken before (`Renews`).
This stays so when the same batch is put in again (`Renews.again`). So an entity has an identity
that was there before exactly if it has the same key as the one that had it (`Renews.id_eq_iff`).
-/

namespace AnchorIndex.Store

/-- The new entities are those of the batch. Each of them has the identity of the old entity with
its key, or, if there is none, one that was not taken from the supply yet. -/
structure Renews (m : Mint) (old batch new : List Entity) : Prop where
  found : (new.map (·.withId "")).Perm (batch.map (·.withId ""))
  inherits : ∀ e ∈ new, (∃ d ∈ old, d.id = e.id ∧ d.keyIn old = e.keyIn new) ∨
    ((∀ d ∈ old, d.keyIn old ≠ e.keyIn new) ∧ ¬ m.Issued e.id)

section

variable {m : Mint} {old batch : List Entity}

/-- No entity is left without identity. -/
theorem id_ne_empty_of_mem_renewed (hm : m.IsLawful) (hid : ∀ d ∈ old, d.id ≠ "") {e : Entity}
    (h : e ∈ renewed old batch m) :
  e.id ≠ ""
  := by
  apply forall_mem_assigned (fun e => e.id ≠ "") (· ≠ "") (forall_mem_knownIds (· ≠ "") hid)
    hm.ne_empty (fun _ _ _ hne => hne) e (mem_listed.1 h)

theorem mem_knownIds_iff (h : Apart old) {key : IdentityKey} {id : String} :
  (key, id) ∈ knownIds old ↔ ∃ d ∈ old, d.id = id ∧ d.keyIn old = key
  := by
  rw [knownIds_eq, idsByKey, List.mem_map]
  constructor
  · rintro ⟨⟨key', d⟩, hp, heq⟩
    cases heq
    obtain ⟨hd, rfl⟩ := (mem_zip_identityKeys_iff h).1 hp
    exact ⟨d, hd, rfl, rfl⟩
  · rintro ⟨d, hd, rfl, rfl⟩
    exact ⟨_, (mem_zip_identityKeys_iff h).2 ⟨hd, rfl⟩, rfl⟩

/-- A batch in the place of old entities renews them. -/
theorem renews_renewed (hm : m.IsLawful) (hid : ∀ d ∈ old, d.id ≠ "") (hold : Apart old)
    (hbatch : Apart batch) :
  Renews m old batch (renewed old batch m)
  := by
  have hfound := found_renewed old batch m
  use hfound
  intro e he
  obtain ⟨⟨key, e⟩, hp, rfl⟩ := List.mem_map.1 (mem_listed.1 he)
  obtain ⟨b, hb, heq⟩ := exists_of_mem_assigned hp
  obtain ⟨-, rfl⟩ := (mem_zip_identityKeys_iff hbatch).1 hb
  have hkey : b.keyIn batch = e.keyIn (renewed old batch m) := by
    calc b.keyIn batch
        = b.keyIn (batch.map (·.withId "")) := (Entity.keyIn_map_withId batch b "").symm
      _ = b.keyIn ((renewed old batch m).map (·.withId "")) :=
          (Entity.keyIn_perm hfound b).symm
      _ = b.keyIn (renewed old batch m) := Entity.keyIn_map_withId _ b ""
      _ = e.keyIn (renewed old batch m) := by
          rw [heq]
          rfl
  dsimp only
  rw [← hkey]
  obtain hknown | ⟨hnew, hid'⟩ := mem_or_mem_of_mem_assigned hid hp
  · exact .inl ((mem_knownIds_iff hold).1 hknown)
  · right
    refine ⟨?_, not_issued_of_mem_newIds hm.injective hid'⟩
    intro d hd hkey
    rw [isNew, Option.isNone_iff_eq_none, knownId?_eq_none_iff hid, ← map_fst_knownIds] at hnew
    apply hnew
    rw [← hkey]
    apply List.mem_map_of_mem ((mem_knownIds_iff hold).2 ⟨d, hd, rfl, rfl⟩)

end

namespace Renews

variable {m m' : Mint} {old batch new new' : List Entity}

/-- Entities that stay renew themselves. -/
theorem refl (m : Mint) (es : List Entity) :
  Renews m es es es
  := ⟨.refl _, fun e he => .inl ⟨e, he, rfl, rfl⟩⟩

theorem apart (h : Renews m old batch new) (hbatch : Apart batch) :
  Apart new
  := by
  rw [← apart_map_withId ""]
  apply ((apart_map_withId "").2 hbatch).perm h.found

/-- What was not taken from a later supply was not taken from an earlier one. -/
theorem mono (h : Renews m' old batch new) (hm : ∀ id, m.Issued id → m'.Issued id) :
  Renews m old batch new
  := by
  use h.found
  intro e he
  obtain hold | ⟨hnone, hissued⟩ := h.inherits e he
  · exact .inl hold
  · exact .inr ⟨hnone, fun hid => hissued (hm _ hid)⟩

/-- When the same batch is put in again, all identities stay. -/
theorem again (h : Renews m old batch new) (h' : Renews m' new batch new') :
  Renews m old batch new'
  := by
  use h'.found
  have hkeys : ∀ e : Entity, e.keyIn new' = e.keyIn new := by
    intro e
    rw [← Entity.keyIn_map_withId new' e "", Entity.keyIn_perm (h'.found.trans h.found.symm),
      Entity.keyIn_map_withId]
  intro e he
  obtain ⟨d, hd, hid, hkey⟩ | ⟨hnone, -⟩ := h'.inherits e he
  · rw [← hid, ← hkey]
    apply h.inherits d hd
  · obtain ⟨d, hd, heq⟩ : ∃ d ∈ new, d.withId "" = e.withId "" := by
      have hmem := (h'.found.trans h.found.symm).mem_iff.1 (List.mem_map_of_mem he)
      apply List.mem_map.1 hmem
    apply absurd _ (hnone d hd)
    calc d.keyIn new
        = (d.withId "").keyIn new := rfl
      _ = (e.withId "").keyIn new := by rw [heq]
      _ = e.keyIn new := rfl
      _ = e.keyIn new' := (hkeys e).symm

/-- An entity has an identity that was there before exactly if it has the key of the one that
had it. -/
theorem id_eq_iff (h : Renews m old batch new) (hold : Apart old)
    (hids : (old.map (·.id)).Nodup) (hissued : ∀ d ∈ old, m.Issued d.id) {d e : Entity}
    (hd : d ∈ old) (he : e ∈ new) :
  e.id = d.id ↔ e.keyIn new = d.keyIn old
  := by
  obtain ⟨c, hc, hid, hkey⟩ | ⟨hnone, hnew⟩ := h.inherits e he
  · rw [← hid, ← hkey]
    constructor
    · intro heq
      rw [List.inj_on_of_nodup_map hids hc hd heq]
    · intro heq
      rw [hold.eq_of_keyIn_eq hc hd heq]
  · constructor
    · intro heq
      rw [heq] at hnew
      exact absurd (hissued d hd) hnew
    · intro heq
      exact absurd heq.symm (hnone d hd)

/-- The entities of a file stand where those of a batch do that renewed them. -/
theorem perm_standing (h : Renews m old batch new) (path : String) :
  ((new.filter (·.path == path)).map Entity.standing).Perm
    ((batch.filter (·.path == path)).map Entity.standing)
  := by
  have hsame : ∀ l : List Entity,
      ((l.map (·.withId "")).filter (·.path == path)).map Entity.standing
        = (l.filter (·.path == path)).map Entity.standing := by
    intro l
    rw [List.filter_map, List.map_map]
    rfl
  rw [← hsame new, ← hsame batch]
  apply (h.found.filter _).map

end Renews

end AnchorIndex.Store
