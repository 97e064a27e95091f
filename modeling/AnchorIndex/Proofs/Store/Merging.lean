import AnchorIndex.Proofs.Store.Keeping
import AnchorIndex.Proofs.Store.Identities
import AnchorIndex.Proofs.Store.Replacing
import AnchorIndex.Proofs.Store.Upserting

/-!
# Merging a batch with what is stored

Entities of a batch that are put in one after another take the place of the entities with their
keys and leave all others (`foldl_placeEntity_perm`). In every run the identities that the store
holds, and those that its documents hold, are tokens that were taken (`Tracked`), so that a token
that a batch takes is an identity that no entity has. Together, upserting a batch loses nothing and
doubles nothing (`upserted_afterAll`).
-/

namespace AnchorIndex.Store

open Effect

/-! ### Placing a batch -/

section

variable {stored r : List (IdentityKey × Entity)} {p : IdentityKey × Entity}

theorem placeEntity_perm (h : (stored.map Prod.fst).Nodup) :
  (placeEntity stored p).Perm (stored.filter (fun q => q.1 ≠ p.1) ++ [p])
  := by
  induction stored with
  | nil => rfl
  | cons old rest ih =>
    rw [List.map_cons, List.nodup_cons] at h
    rw [placeEntity, List.filter_cons]
    by_cases hkey : old.1 = p.1
    · have hrest : rest.filter (fun q => q.1 ≠ p.1) = rest := by
        rw [List.filter_eq_self]
        intro q hq
        rw [decide_eq_true_eq, ← hkey]
        intro heq
        apply h.1
        rw [← heq]
        apply List.mem_map_of_mem hq
      rw [if_pos hkey, if_neg (by simpa using hkey), hrest]
      exact (List.perm_append_singleton p rest).symm
    · rw [if_neg hkey, if_pos (by simpa using hkey)]
      exact (ih h.2).cons old

/-- Of the entities that there were, those stay whose keys are not among the new ones. -/
theorem foldl_placeEntity_perm (h : (stored.map Prod.fst).Nodup) (hr : (r.map Prod.fst).Nodup) :
  (r.foldl placeEntity stored).Perm (stored.filter (fun q => q.1 ∉ r.map Prod.fst) ++ r)
  := by
  induction r generalizing stored with
  | nil => simp
  | cons p r ih =>
    rw [List.map_cons, List.nodup_cons] at hr
    have hplaced := placeEntity_perm (p := p) h
    have hkeys : ((placeEntity stored p).map Prod.fst).Nodup := by
      rw [(hplaced.map Prod.fst).nodup_iff, List.map_append, List.nodup_append]
      refine ⟨h.sublist (List.filter_sublist.map _), List.nodup_singleton _, ?_⟩
      intro key hkey key' hkey' heq
      obtain ⟨q, hq, rfl⟩ := List.mem_map.1 hkey
      have hne : q.1 ≠ p.1 := by simpa using (List.mem_filter.1 hq).2
      apply hne
      rw [heq, List.mem_singleton.1 hkey']
    have hfilter := hplaced.filter fun q => q.1 ∉ r.map Prod.fst
    have hp : [p].filter (fun q => q.1 ∉ r.map Prod.fst) = [p] := by simpa using hr.1
    rw [List.filter_append, hp, List.filter_filter] at hfilter
    rw [List.foldl_cons]
    refine (ih hkeys hr.2).trans ?_
    refine (hfilter.append_right r).trans ?_
    rw [List.append_assoc, List.singleton_append]
    have hsame : stored.filter (fun q => q.1 ∉ r.map Prod.fst ∧ q.1 ≠ p.1)
        = stored.filter fun q => q.1 ∉ (p :: r).map Prod.fst := by
      apply List.filter_congr
      intro q _
      rw [decide_eq_decide, List.map_cons, List.mem_cons, not_or, and_comm]
    simp only [Bool.decide_and] at hsame
    rw [hsame]

end

/-- The entities of a list whose keys are not among those of a batch. -/
def spared (old batch : List Entity) : List Entity :=
  ((keyed old).filter fun p => p.1 ∉ identityKeys batch).map Prod.snd

/-- After a batch is put among the entities, there are those whose keys it spares, and its own. -/
theorem merged_perm (old batch : List Entity) (known : List (IdentityKey × String)) (m : Mint) :
  (merged old (assigned known (keyed batch) m)).Perm
    (spared old batch ++ (assigned known (keyed batch) m).map Prod.snd)
  := by
  have hperm := foldl_placeEntity_perm (nodup_keyed old) (nodup_map_fst_assigned known batch m)
  rw [map_fst_assigned, map_fst_keyed] at hperm
  have hsnd := hperm.map Prod.snd
  rwa [List.map_append] at hsnd

/-! ### Identities that were taken -/

/-- The identities of all entities that the store or its documents hold were taken from the
supply. -/
structure Tracked (s : State) : Prop where
  usable : s.Usable
  indexed : s.Indexed
  lawful : s.mint.IsLawful
  stored : ∀ kind es, s.stored kind = .ok es → ∀ e ∈ es, e.kind = kind ∧ s.mint.Issued e.id
  documented : ∀ kind es, s.documented kind = .ok es → ∀ e ∈ es, s.mint.Issued e.id

namespace Tracked

variable {s s' : State} {kind : Kind}

theorem congr (h : Tracked s) (husable : s'.Usable) (hindexed : s'.Indexed)
    (hmint : s'.mint = s.mint) (hstored : ∀ kind, s'.stored kind = s.stored kind)
    (hdocumented : ∀ kind, s'.documented kind = s.documented kind) :
  Tracked s'
  := by
  refine ⟨husable, hindexed, ?_, ?_, ?_⟩
  · rw [hmint]
    apply h.lawful
  · intro kind
    rw [hmint, hstored]
    apply h.stored kind
  · intro kind
    rw [hmint, hdocumented]
    apply h.documented kind

theorem id_ne_empty (h : Tracked s) {es : List Entity} (hes : s.stored kind = .ok es) :
  ∀ e ∈ es, e.id ≠ ""
  := by
  intro e he
  obtain ⟨-, i, -, hi⟩ := h.stored kind es hes e he
  rw [hi]
  apply h.lawful.ne_empty i

/-- Saved entities whose identities were taken are tracked, in the store and in the document. -/
theorem save (h : Tracked s) {es : List Entity} {taken : Nat} (hsaved : Saved s s' kind es taken)
    (hkind : ∀ e ∈ es, e.kind = kind) (hids : ∀ e ∈ es, s'.mint.Issued e.id) :
  Tracked s'
  := by
  refine ⟨hsaved.wrote.usable, hsaved.indexed, ?_, ?_, ?_⟩
  · rw [hsaved.mint]
    apply h.lawful.skip _
  · intro kind' es' hes'
    by_cases hne : kind' = kind
    · subst hne
      rw [hsaved.stored_self] at hes'
      cases hes'
      intro e he
      exact ⟨hkind e he, hids e he⟩
    · rw [hsaved.stored_of_ne hne] at hes'
      intro e he
      rw [hsaved.mint]
      exact (h.stored kind' es' hes' e he).imp_right (·.skip _)
  · intro kind' es' hes'
    by_cases hne : kind' = kind
    · subst hne
      have hplaced := hsaved.isPlaced_of_documented hes'
      rw [hsaved.documented_self fun e he => ⟨hkind e he, hplaced e he⟩] at hes'
      cases hes'
      intro e' he'
      obtain ⟨e, he, rfl⟩ := List.mem_map.1 he'
      obtain ⟨i, hi, htoken⟩ := hids e he
      refine ⟨i, hi, ?_⟩
      have hnormal : Document.IsNormal (s'.mint.token i) := by
        rw [hsaved.mint]
        apply h.lawful.isNormal i
      rw [← Document.normalText_eq_self hnormal, ← htoken]
      rfl
    · rw [hsaved.documented_of_ne hne] at hes'
      intro e he
      rw [hsaved.mint]
      exact (h.documented kind' es' hes' e he).skip _

/-- Identities stay tracked, whatever is put into the store and even if the store is opened
again. -/
theorem change (h : Tracked s) {o : Operation} (hchange : Change o s s') :
  Tracked s'
  := by
  have husable := hchange.usable h.usable
  have hindexed := hchange.indexed h.usable h.indexed
  cases hchange with
  | load hload =>
    apply h.congr husable hindexed hload.mint hload.stored_eq hload.documented_eq
  | index _ => exact h.congr husable hindexed rfl (fun _ => rfl) fun _ => rfl
  | @put _ kind current manner hcurrent hkind hsaved =>
    have hid := h.id_ne_empty hcurrent
    have hkinds : ∀ e ∈ current, e.kind = kind := fun e he => (h.stored kind _ hcurrent e he).1
    apply h.save hsaved
    · intro e he
      apply manner.forall_mem_result hkinds _ e (mem_listed.1 he)
      apply forall_mem_assigned (·.kind = kind) (fun _ => True) (fun _ _ => trivial)
        (fun _ => trivial) fun e he _ _ => hkind e he
    · intro e he
      rw [hsaved.mint]
      obtain hold | hnew := manner.mem_ids_result hid (mem_listed.1 he)
      · obtain ⟨d, hd, heq⟩ := List.mem_map.1 hold
        rw [← heq]
        exact (h.stored kind current hcurrent d hd).2.skip _
      · apply issued_of_mem_newIds hnew
  | record hrecord =>
    have haside := hrecord.aside h.usable
    apply h.congr husable hindexed haside.mint haside.stored_eq haside.documented_eq
  | reopen _ =>
    refine ⟨husable, hindexed, h.lawful, ?_, h.documented⟩
    intro kind es hes e he
    exact ⟨(isClean_of_documented hes he).2, h.documented kind es hes e he⟩

end Tracked

/-- After every run from a fresh store the identities are tracked. -/
theorem tracked_afterAll {s : State} (h : s.IsFresh) (hlawful : s.mint.IsLawful)
    (ops : List Operation) :
  Tracked (s.afterAll ops)
  := by
  apply preserved_afterAll (fun _ h => h.usable) (fun _ h => h.indexed)
  · intro o _ s s' hchange hs
    apply hs.change hchange
  · have hidentified := h.identified hlawful
    refine ⟨h.usable, hidentified.indexed, hlawful, ?_, ?_⟩
    · intro kind es hes e he
      rw [h.stored_eq] at hes
      cases hes
      contradiction
    · intro kind es hes e he
      rw [h.documented_eq] at hes
      cases hes
      contradiction

/-! ### Upserting a batch -/

/-- The second entity is the entity of a batch with its key, as it is stored: it has the identity
of the old entity with this key, or else one that was taken just now and that no entity had. -/
structure Takes (s s' : State) (old : List Entity) (p : IdentityKey × Entity) (e : Entity) :
    Prop where
  eq : e = p.2.withId e.id
  kept : ∀ d, (p.1, d) ∈ keyed old → e.id = d.id
  taken : p.1 ∉ identityKeys old → ¬ s.mint.Issued e.id ∧ s'.mint.Issued e.id
  unused : p.1 ∉ identityKeys old →
    ∀ kind es, answer (all kind) s = .ok es → ∀ d ∈ es, d.id ≠ e.id

/-- Upserting a batch of a kind of which the old entities are stored answers the new ones. No
entity is lost and none is doubled, and nothing else changes. -/
structure Upserted (s s' : State) (kind : Kind) (batch old new : List Entity) : Prop where
  run_eq : run (upsertMany kind batch) s = (.ok new, s')
  takes : List.Forall₂ (Takes s s' old) (keyed batch) new
  distinct : (((keyed new).filter fun p => p.1 ∉ identityKeys old).map (·.2.id)).Nodup
  stored : ∃ es, answer (all kind) s' = .ok es ∧ IsListed es ∧ es.Perm (spared old batch ++ new)
  others : ∀ kind', kind' ≠ kind → answer (all kind') s' = answer (all kind') s
  records : SameRecords s s'
  documents : ∀ schema ∈ schemas, schema ≠ entitySchema kind →
    s'.records schema = s.records schema

section

variable {known : List (IdentityKey × String)} {l : List (IdentityKey × Entity)} {m : Mint}

/-- What holds of each entity with its identity holds along the batch. -/
theorem forall₂_assigned {R : IdentityKey × Entity → IdentityKey × Entity → Prop}
    (h : ∀ p, ∀ q ∈ assigned known l m, q.1 = p.1 → q.2 = p.2.withId q.2.id → R p q) :
  List.Forall₂ R l (assigned known l m)
  := by
  induction l generalizing m with
  | nil => exact .nil
  | cons p rest ih =>
    obtain ⟨key, e⟩ := p
    rw [assigned] at h ⊢
    split at h <;>
    · obtain ⟨hfirst, hrest⟩ := List.forall_mem_cons.1 fun q hq => fun p => h p q hq
      refine .cons (hfirst (key, e) rfl rfl) (ih fun p q hq => hrest q hq p)

end

section

variable {s : State} {kind : Kind} {batch old : List Entity}

theorem isNew_iff (hid : ∀ e ∈ old, e.id ≠ "") (p : IdentityKey × Entity) :
  isNew (knownIds old) p = true ↔ p.1 ∉ identityKeys old
  := by
  rw [isNew, Option.isNone_iff_eq_none, knownId?_eq_none_iff hid]

/-- An entity that is assigned an identity takes it. -/
theorem Tracked.takes (h : Tracked s) (hold : s.stored kind = .ok old) {s' : State}
    (hmint : s'.mint = s.mint.skip (newCount old batch)) {p q : IdentityKey × Entity}
    (hq : q ∈ assigned (knownIds old) (keyed batch) s.mint) (hkey : q.1 = p.1)
    (heq : q.2 = p.2.withId q.2.id) :
  Takes s s' old p q.2
  := by
  have hid := h.id_ne_empty hold
  have hnew : p.1 ∉ identityKeys old → q.2.id ∈ newIds old batch s.mint := by
    intro hp
    rw [← hkey, ← isNew_iff hid] at hp
    rw [newIds, newCount, ← ids_newlyAssigned]
    exact List.mem_map_of_mem (f := (·.2.id)) (List.mem_filter.2 ⟨hq, hp⟩)
  have hunissued : p.1 ∉ identityKeys old → ¬ s.mint.Issued q.2.id :=
    fun hp => not_issued_of_mem_newIds h.lawful.injective (hnew hp)
  refine ⟨heq, ?_, ?_, ?_⟩
  · intro d hd
    apply id_of_mem_assigned hq
    rw [hkey, knownId?_eq_some_iff hid, knownIds_eq]
    exact List.mem_map_of_mem (f := fun p => (p.1, p.2.id)) hd
  · intro hp
    use hunissued hp
    rw [hmint]
    apply issued_of_mem_newIds (hnew hp)
  · intro hp kind' es hes d hd hsame
    rw [answer_all] at hes
    apply hunissued hp
    rw [← hsame]
    exact (h.stored kind' es hes d hd).2

/-- Where identities are tracked, upserting a batch of a kind loses nothing and doubles nothing. -/
theorem Tracked.upserted (h : Tracked s) (hold : s.stored kind = .ok old)
    (hbatch : ∀ e ∈ batch, e.kind = kind) :
  ∃ new s', Upserted s s' kind batch old new
  := by
  have hid := h.id_ne_empty hold
  obtain ⟨s', hrun, hsaved⟩ := Manner.merge.run_put h.usable hold hbatch
  have hstored := hsaved.stored_self
  rw [← answer_all] at hstored
  refine ⟨_, s', hrun, ?_, ?_, ⟨_, hstored, isListed_listed _, ?_⟩, ?_, hsaved.sameRecords, ?_⟩
  · rw [List.forall₂_map_right_iff]
    apply forall₂_assigned
    intro p q hq hkey heq
    apply h.takes hold hsaved.mint hq hkey heq
  · rw [keyed_assigned]
    simp only [← isNew_iff hid, Bool.decide_eq_true]
    rw [ids_newlyAssigned]
    apply nodup_newIds h.lawful.injective
  · exact (listed_perm _).trans (merged_perm old batch _ s.mint)
  · intro kind' hne
    rw [answer_all, answer_all, hsaved.stored_of_ne hne]
  · intro schema hs hne
    apply hsaved.records_of_ne hs hne

end

/-- A run that puts a function into the store. -/
def feeOnce : List Operation :=
  [.upsert .function (feeFunction 5 2)]

/-- Three functions of one logical key, of which the one that starts first is not listed first. -/
def threeFees : List Entity :=
  [feeFunction 5 3, feeFunction 9 1, feeFunction 1 2]

end AnchorIndex.Store
