import AnchorIndex.Proofs.Store.Fresh
import AnchorIndex.Proofs.Store.Runs

/-!
# Identities in the store

The identities of all stored entities are tokens that were taken from the supply, and no two
entities have the same one (`Identified`). Operations preserve this, except for opening the store
again, which needs the documents to hold the same identities (`SameIds`). So after every run from a
fresh store an identity leads to the one entity that has it (`found_afterAll`).
-/

namespace AnchorIndex.Store

open Effect
open Document (IsNormal)

/-! ### Distinct identities -/

/-- The store holds these entities, whose identities are distinct tokens that were taken. -/
structure Identified (s : State) (es : Kind → List Entity) : Prop where
  usable : s.Usable
  lawful : s.mint.IsLawful
  indexed : s.Indexed
  stored : ∀ kind, s.stored kind = .ok (es kind)
  kind_eq : ∀ kind, ∀ e ∈ es kind, e.kind = kind
  issued : ∀ kind, ∀ e ∈ es kind, s.mint.Issued e.id
  nodup : ∀ kind, ((es kind).map (·.id)).Nodup
  disjoint : ∀ kind kind', kind ≠ kind' → ∀ d ∈ es kind, ∀ e ∈ es kind', d.id ≠ e.id

namespace Identified

variable {s s' : State} {es : Kind → List Entity}

theorem eq_of_stored (h : Identified s es) {kind : Kind} {current : List Entity}
    (hcurrent : s.stored kind = .ok current) :
  current = es kind
  := by
  rw [h.stored] at hcurrent
  exact (Except.ok.inj hcurrent).symm

/-- A document keeps the identities of stored entities as they are. -/
theorem isNormal_id (h : Identified s es) {kind : Kind} {e : Entity} (he : e ∈ es kind) :
  IsNormal e.id
  := by
  obtain ⟨i, -, hi⟩ := h.issued kind e he
  rw [hi]
  apply h.lawful.isNormal i

/-- No stored entity is without identity. -/
theorem id_ne_empty (h : Identified s es) {kind : Kind} {e : Entity} (he : e ∈ es kind) :
  e.id ≠ ""
  := by
  obtain ⟨i, -, hi⟩ := h.issued kind e he
  rw [hi]
  apply h.lawful.ne_empty i

theorem congr (h : Identified s es) (husable : s'.Usable) (hmint : s'.mint = s.mint)
    (hindexed : s'.Indexed) (hstored : ∀ kind, s'.stored kind = s.stored kind) :
  Identified s' es
  := by
  refine ⟨husable, ?_, hindexed, ?_, h.kind_eq, ?_, h.nodup, h.disjoint⟩
  · rw [hmint]
    apply h.lawful
  · intro kind
    rw [hstored, h.stored]
  · rw [hmint]
    apply h.issued

/-- An identity of the kind, or a new one, is not that of an entity of another kind. -/
theorem ne_id_of_mem_ids (h : Identified s es) {kind kind' : Kind} {batch : List Entity}
    {id : String} (hid : id ∈ (es kind).map (·.id) ∨ id ∈ newIds (es kind) batch s.mint)
    (hne : kind' ≠ kind) {d : Entity} (hd : d ∈ es kind') :
  id ≠ d.id
  := by
  rintro rfl
  obtain hold | hnew := hid
  · obtain ⟨c, hc, hceq⟩ := List.mem_map.1 hold
    apply h.disjoint kind' kind hne d hd c hc hceq.symm
  · apply not_issued_of_mem_newIds h.lawful.injective hnew
    apply h.issued kind' d hd

/-- An identity of the kind, or a new one, has been taken once the new ones are. -/
theorem issued_of_mem_ids (h : Identified s es) {kind : Kind} {batch : List Entity} {id : String}
    (hid : id ∈ (es kind).map (·.id) ∨ id ∈ newIds (es kind) batch s.mint) :
  (s.mint.skip (newCount (es kind) batch)).Issued id
  := by
  obtain hold | hnew := hid
  · obtain ⟨c, hc, rfl⟩ := List.mem_map.1 hold
    exact (h.issued kind c hc).skip _
  · apply issued_of_mem_newIds hnew

/-- Identities stay distinct if entities of a kind are saved whose identities differ, and are ones
of this kind or new ones. -/
theorem save (h : Identified s es) {kind : Kind} {batch es' : List Entity}
    (hsaved : Saved s s' kind es' (newCount (es kind) batch)) (hkind : ∀ e ∈ es', e.kind = kind)
    (hnodup : (es'.map (·.id)).Nodup)
    (hids : ∀ e ∈ es', e.id ∈ (es kind).map (·.id) ∨ e.id ∈ newIds (es kind) batch s.mint) :
  Identified s' (Function.update es kind es')
  := by
  refine ⟨hsaved.wrote.usable, ?_, hsaved.indexed, hsaved.stored_update h.stored, ?_, ?_, ?_, ?_⟩
  · rw [hsaved.mint]
    apply h.lawful.skip _
  · rw [Function.forall_update_iff es fun kind' l => ∀ e ∈ l, e.kind = kind']
    exact ⟨hkind, fun kind' _ => h.kind_eq kind'⟩
  · rw [hsaved.mint, Function.forall_update_iff es fun _ l => ∀ e ∈ l, (s.mint.skip _).Issued e.id]
    constructor
    · intro e he
      apply h.issued_of_mem_ids (hids e he)
    · intro kind' _ e he
      exact (h.issued kind' e he).skip _
  · rw [Function.forall_update_iff es fun _ l => (l.map (·.id)).Nodup]
    exact ⟨hnodup, fun kind' _ => h.nodup kind'⟩
  · rw [Function.forall_update_iff es fun k l =>
      ∀ k', k ≠ k' → ∀ d ∈ l, ∀ e ∈ Function.update es kind es' k', d.id ≠ e.id]
    constructor
    · intro k' hne d hd e he
      rw [Function.update_of_ne hne.symm] at he
      apply h.ne_id_of_mem_ids (hids d hd) hne.symm he
    · intro k hk
      rw [Function.forall_update_iff es fun k' l => k ≠ k' → ∀ d ∈ es k, ∀ e ∈ l, d.id ≠ e.id]
      constructor
      · intro _ d hd e he
        exact (h.ne_id_of_mem_ids (hids e he) hk hd).symm
      · intro k' _
        apply h.disjoint k k'

/-- Identities stay distinct if a batch of a kind is put in, in whatever manner. -/
theorem put (h : Identified s es) (manner : Manner) {kind : Kind} {batch : List Entity}
    (hkind : ∀ e ∈ batch, e.kind = kind)
    (hsaved : Saved s s' kind
      (listed (manner.result (es kind) (assigned (knownIds (es kind)) (keyed batch) s.mint)))
      (newCount (es kind) batch)) :
  Identified s' (Function.update es kind
    (listed (manner.result (es kind) (assigned (knownIds (es kind)) (keyed batch) s.mint))))
  := by
  have hid : ∀ e ∈ es kind, e.id ≠ "" := fun e he => h.id_ne_empty he
  apply h.save hsaved
  · intro e he
    apply manner.forall_mem_result (h.kind_eq kind) _ e (mem_listed.1 he)
    apply forall_mem_assigned (·.kind = kind) (fun _ => True) (fun _ _ => trivial)
      (fun _ => trivial) fun e he _ _ => hkind e he
  · rw [((listed_perm _).map _).nodup_iff]
    apply manner.nodup_ids_result h.lawful.injective hid (h.issued kind) (h.nodup kind)
  · intro e he
    apply manner.mem_ids_result hid (mem_listed.1 he)

end Identified

/-! ### Identities in documents -/

/-- The documents hold entities with the identities of these ones. -/
structure SameIds (s : State) (es : Kind → List Entity) : Prop where
  placed : ∀ kind, ∀ e ∈ es kind, e.IsPlaced
  ids : ∀ kind, ∃ ds, s.documented kind = .ok ds ∧ ds.map (·.id) = (es kind).map (·.id)

section

variable {o : Operation} {s s' : State} {es : Kind → List Entity}

theorem SameIds.congr (h : SameIds s es)
    (hdocumented : ∀ kind, s'.documented kind = s.documented kind) :
  SameIds s' es
  := by
  use h.placed
  intro kind
  rw [hdocumented]
  apply h.ids kind

/-- Saved entities have the same identities in their document, if a document keeps them. -/
theorem SameIds.save (h : SameIds s es) {kind : Kind} {es' : List Entity} {taken : Nat}
    (hsaved : Saved s s' kind es' taken) (hkind : ∀ e ∈ es', e.kind = kind)
    (hplaced : ∀ e ∈ es', e.IsPlaced) (hids : ∀ e ∈ es', IsNormal e.id) :
  SameIds s' (Function.update es kind es')
  := by
  constructor
  · rw [Function.forall_update_iff es fun _ l => ∀ e ∈ l, e.IsPlaced]
    exact ⟨hplaced, fun kind' _ => h.placed kind'⟩
  · rw [Function.forall_update_iff es fun kind' l =>
      ∃ ds, s'.documented kind' = .ok ds ∧ ds.map (·.id) = l.map (·.id)]
    constructor
    · refine ⟨_, hsaved.documented_self fun e he => ⟨hkind e he, hplaced e he⟩, ?_⟩
      rw [List.map_map]
      apply List.map_congr_left
      intro e he
      apply Document.normalText_eq_self (hids e he)
    · intro kind' hne
      rw [hsaved.documented_of_ne hne]
      apply h.ids kind'

/-- A store that is opened again holds entities with the same identities. -/
theorem Identified.reopened (h : Identified s es) (hids : SameIds s es) :
  ∃ ds, Identified s.reopened ds ∧ SameIds s.reopened ds
  := by
  choose ds hds hsame using hids.ids
  have hmem : ∀ kind, ∀ d ∈ ds kind, ∃ e ∈ es kind, e.id = d.id := by
    intro kind d hd
    have hid : d.id ∈ (es kind).map (·.id) := by
      rw [← hsame]
      apply List.mem_map_of_mem hd
    apply List.mem_map.1 hid
  refine ⟨ds, ⟨h.usable.congr rfl rfl, h.lawful, ?_, hds, ?_, ?_, ?_, ?_⟩, ?_, ?_⟩
  · intro index hindex
    contradiction
  · intro kind d hd
    exact (isClean_of_documented (hds kind) hd).2
  · intro kind d hd
    obtain ⟨e, he, heq⟩ := hmem kind d hd
    rw [← heq]
    apply h.issued kind e he
  · intro kind
    rw [hsame]
    apply h.nodup kind
  · intro k k' hne d hd d' hd'
    obtain ⟨e, he, heq⟩ := hmem k d hd
    obtain ⟨e', he', heq'⟩ := hmem k' d' hd'
    rw [← heq, ← heq']
    apply h.disjoint k k' hne e he e' he'
  · intro kind d hd
    exact (isClean_of_documented (hds kind) hd).1.placed
  · intro kind
    exact ⟨ds kind, hds kind, rfl⟩

/-- Identities stay distinct, in the store and in its documents, when entities are put into the
store whose enclosing lines a document keeps. -/
theorem Identified.change (h : Identified s es) (hids : SameIds s es) (hchange : Change o s s')
    (ho : ∀ e ∈ o.entitiesIn, e.IsPlaced) :
  ∃ es', Identified s' es' ∧ SameIds s' es'
  := by
  have husable := hchange.usable h.usable
  have hindexed := hchange.indexed h.usable h.indexed
  cases hchange with
  | load hload =>
    use es, h.congr husable hload.mint hindexed hload.stored_eq
    apply hids.congr hload.documented_eq
  | index _ =>
    use es, h.congr husable rfl hindexed fun _ => rfl
    exact hids.congr fun _ => rfl
  | put manner hcurrent hkind hsaved =>
    obtain rfl := h.eq_of_stored hcurrent
    have hput := h.put manner hkind hsaved
    refine ⟨_, hput, hids.save hsaved ?_ ?_ ?_⟩
    · intro e he
      apply hput.kind_eq _ e (by rwa [Function.update_self])
    · intro e he
      apply manner.forall_mem_result (hids.placed _) _ e (mem_listed.1 he)
      apply forall_mem_assigned Entity.IsPlaced (fun _ => True) (fun _ _ => trivial)
        (fun _ => trivial) fun e he _ _ => ho e he
    · intro e he
      apply hput.isNormal_id (by rwa [Function.update_self])
  | record hrecord =>
    have haside := hrecord.aside h.usable
    use es, h.congr husable haside.mint hindexed haside.stored_eq
    apply hids.congr haside.documented_eq
  | reopen _ => exact h.reopened hids

end

/-! ### Runs -/

theorem State.IsFresh.identified {s : State} (h : s.IsFresh) (hlawful : s.mint.IsLawful) :
  Identified s fun _ => []
  := by
  refine ⟨h.usable, hlawful, ?_, h.stored_eq, ?_, ?_, ?_, ?_⟩
  · intro index hindex
    rw [h.memory_eq] at hindex
    contradiction
  · intro kind e he
    contradiction
  · intro kind e he
    contradiction
  · intro kind
    apply List.nodup_nil
  · intro kind kind' _ d hd
    contradiction

theorem State.IsFresh.sameIds {s : State} (h : s.IsFresh) :
  SameIds s fun _ => []
  := by
  constructor
  · intro kind e he
    contradiction
  · intro kind
    exact ⟨[], h.documented_eq kind, rfl⟩

/-- After every run from a fresh store the identities are distinct. -/
theorem identified_afterAll {s : State} (h : s.IsFresh) (hlawful : s.mint.IsLawful)
    {ops : List Operation} (hops : ∀ o ∈ ops, ∀ e ∈ o.entitiesIn, e.IsPlaced) :
  ∃ es, Identified (s.afterAll ops) es ∧ SameIds (s.afterAll ops) es
  := by
  apply preserved_afterAll (P := fun s => ∃ es, Identified s es ∧ SameIds s es)
  · rintro s ⟨es, hs, -⟩
    apply hs.usable
  · rintro s ⟨es, hs, -⟩
    apply hs.indexed
  · rintro o ho s s' hchange ⟨es, hs, hids⟩
    apply hs.change hids hchange (hops o ho)
  · exact ⟨_, h.identified hlawful, h.sameIds⟩

/-! ### Finding -/

namespace Identified

variable {s : State} {es : Kind → List Entity}

/-- No two entities of whatever kinds have the same identity. -/
theorem nodup_ids (h : Identified s es) :
  ((Kind.all.flatMap es).map (·.id)).Nodup
  := by
  rw [List.map_flatMap, List.nodup_flatMap]
  constructor
  · intro kind _
    apply h.nodup kind
  · have hall : Kind.all.Pairwise (· ≠ ·) := by decide
    apply hall.imp
    intro k k' hne id hk hk'
    obtain ⟨d, hd, hdid⟩ := List.mem_map.1 hk
    obtain ⟨e, he, heid⟩ := List.mem_map.1 hk'
    apply h.disjoint k k' hne d hd e he (hdid.trans heid.symm)

theorem mem_flatMap {e : Entity} :
  e ∈ Kind.all.flatMap es ↔ ∃ kind, e ∈ es kind
  := by
  rw [List.mem_flatMap]
  constructor
  · rintro ⟨kind, -, he⟩
    exact ⟨kind, he⟩
  · rintro ⟨kind, he⟩
    exact ⟨kind, Kind.mem_all kind, he⟩

theorem answer_find? (h : Identified s es) (id : String) :
  answer (find? id) s = .ok ((indexById (Kind.all.flatMap es)).lookup id)
  := by
  rw [Store.answer_find? h.indexed, State.index_eq h.stored]
  rfl

theorem lookup_eq_some_iff (h : Identified s es) {id : String} {e : Entity} :
  (indexById (Kind.all.flatMap es)).lookup id = some e ↔ ∃ kind, e ∈ es kind ∧ e.id = id
  := by
  rw [lookup_indexById_eq_some_iff h.nodup_ids, mem_flatMap]
  constructor
  · rintro ⟨⟨kind, he⟩, hid⟩
    exact ⟨kind, he, hid⟩
  · rintro ⟨kind, he, hid⟩
    exact ⟨⟨kind, he⟩, hid⟩

theorem lookup_eq_none_iff (h : Identified s es) {id : String} :
  (indexById (Kind.all.flatMap es)).lookup id = none ↔ ∀ kind, ∀ e ∈ es kind, e.id ≠ id
  := by
  rw [Option.eq_none_iff_forall_ne_some]
  constructor
  · intro hnone kind e he hid
    apply hnone e (h.lookup_eq_some_iff.2 ⟨kind, he, hid⟩)
  · intro hne e hsome
    obtain ⟨kind, he, hid⟩ := h.lookup_eq_some_iff.1 hsome
    apply hne kind e he hid

end Identified

/-- Whatever is done with a fresh store, the identities of the entities that it then holds are not
empty and differ, finding an identity answers the entity that is stored with it, or none if there
is none, and reading the identity fails exactly if there is none. -/
theorem found_afterAll {s : State} (h : s.IsFresh) (hlawful : s.mint.IsLawful)
    {ops : List Operation} (hops : ∀ o ∈ ops, ∀ e ∈ o.entitiesIn, e.IsPlaced) :
  ∃ es : Kind → List Entity,
    (∀ kind, answer (all kind) (s.afterAll ops) = .ok (es kind)) ∧
    (∀ kind, ∀ e ∈ es kind, e.id ≠ "") ∧
    ((Kind.all.flatMap es).map (·.id)).Nodup ∧
    ∀ id,
      (∀ e, answer (find? id) (s.afterAll ops) = .ok (some e) ↔ ∃ kind, e ∈ es kind ∧ e.id = id) ∧
      (answer (find? id) (s.afterAll ops) = .ok none ↔ ∀ kind, ∀ e ∈ es kind, e.id ≠ id) ∧
      (∀ e, answer (read id) (s.afterAll ops) = .ok e ↔ ∃ kind, e ∈ es kind ∧ e.id = id) ∧
      (answer (read id) (s.afterAll ops) = .error (.fault (.entityMissing id "any kind")) ↔
        ∀ kind, ∀ e ∈ es kind, e.id ≠ id)
  := by
  obtain ⟨es, hes, -⟩ := identified_afterAll h hlawful hops
  refine ⟨es, ?_, fun kind e he => hes.id_ne_empty he, hes.nodup_ids, ?_⟩
  · intro kind
    rw [answer_all, hes.stored]
  intro id
  rw [answer_read, hes.answer_find?, ← hes.lookup_eq_none_iff]
  simp only [← hes.lookup_eq_some_iff]
  cases (indexById (Kind.all.flatMap es)).lookup id with
  | none => simp [Except.bind]
  | some e => simp [Except.bind]

/-- A run that puts a function into the store twice at once, opens the store again and replaces the
two. -/
def repeatedBatches : List Operation :=
  [.upsertMany .function [feeFunction 1 2, feeFunction 1 2],
    .reopen,
    .replaceAll .function [feeFunction 6 2, feeFunction 1 2]]

theorem found_repeatedBatches :
  emptyStore.IsFresh ∧ emptyStore.mint.IsLawful ∧
    (∀ o ∈ repeatedBatches, ∀ e ∈ o.entitiesIn, e.IsPlaced) ∧
    ∃ es : Kind → List Entity,
      (∀ kind, answer (all kind) (emptyStore.afterAll repeatedBatches) = .ok (es kind)) ∧
      (∀ kind, ∀ e ∈ es kind, e.id ≠ "") ∧ ((Kind.all.flatMap es).map (·.id)).Nodup
  := by
  have hops : ∀ o ∈ repeatedBatches, ∀ e ∈ o.entitiesIn, e.IsPlaced := by
    intro o ho e he
    simp only [repeatedBatches, List.mem_cons, List.not_mem_nil, or_false] at ho
    rcases ho with rfl | rfl | rfl <;>
      simp only [Operation.entitiesIn, List.mem_cons, List.not_mem_nil, or_false] at he
    · rcases he with rfl | rfl <;> exact (isClean_feeFunction _ _).placed
    · rcases he with rfl | rfl <;> exact (isClean_feeFunction _ _).placed
  obtain ⟨es, hall, hids, hnodup, -⟩ :=
    found_afterAll isFresh_emptyStore isLawful_emptyStore hops
  exact ⟨isFresh_emptyStore, isLawful_emptyStore, hops, es, hall, hids, hnodup⟩

end AnchorIndex.Store
