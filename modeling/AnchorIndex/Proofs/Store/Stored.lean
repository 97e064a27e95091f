import AnchorIndex.Proofs.Store.Assignment
import AnchorIndex.Proofs.Store.Conversion
import AnchorIndex.Proofs.Store.Listing
import AnchorIndex.Proofs.Store.Writing

/-!
# Entities that are stored

The store holds the entities that it remembers, or else those that its documents hold
(`State.stored`). Reading them fills the memory and changes nothing else (`Loads`). Putting a batch
of entities into a usable store succeeds if the entities are of the kind, and leaves the kind with
the entities that the manner of putting them in tells (`Manner.run_put`).
-/

namespace AnchorIndex.Store

open Effect
open Document (Schema)

/-! ### What documents hold -/

/-- The entities that records of a document describe, or why one describes none. -/
def entitiesOf (kind : Kind) (rs : List Document.Record) : Except Failure (List Entity) :=
  (entitiesOfRecords kind rs).mapError fun f => .fault (.document f)

/-- The entities of a kind that the documents hold, or why they cannot be read. -/
def State.documented (s : State) (kind : Kind) : Except Failure (List Entity) :=
  readEntities s.disk (s.documentPath (entityDocument kind)) kind

theorem State.documented_eq (s : State) (kind : Kind) :
  s.documented kind = s.records (entitySchema kind) >>= entitiesOf kind
  := rfl

theorem entitySchema_injective :
  Function.Injective entitySchema
  := by
  intro a b h
  have hdocument : entityDocument a = entityDocument b := congrArg Schema.document h
  cases a <;> cases b <;> first | rfl | simp [entityDocument] at hdocument

/-- The entities that are written are read back. -/
theorem entitiesOf_map_entityRecord {kind : Kind} {es : List Entity}
    (h : ∀ e ∈ es, e.kind = kind) :
  entitiesOf kind (es.map entityRecord) = .ok es
  := by
  rw [entitiesOf, mapError_eq_ok_iff, entitiesOfRecords, mapM_eq_ok_iff, List.forall₂_map_left_iff,
    List.forall₂_same]
  intro e he
  rw [← h e he, entityOfRecord_entityRecord]

/-- Entities that are placed fit the document of their kind. -/
theorem fits_of_placed {kind : Kind} {es : List Entity} (h : ∀ e ∈ es, e.IsPlaced) :
  ∀ r ∈ es.map entityRecord, r.Fits (entitySchema kind)
  := by
  intro r hr
  obtain ⟨e, he, rfl⟩ := List.mem_map.1 hr
  apply fits_entityRecord kind (h e he)

/-- Whatever the lines around an entity are, its record breaks no line. -/
theorem unbroken_entityRecord (kind : Kind) (e : Entity) :
  (entityRecord e).Unbroken (entitySchema kind)
  := by
  refine ⟨?_, trivial⟩
  intro f hf
  simp only [entitySchema, entityLayout, List.mem_cons, List.not_mem_nil, or_false] at hf
  obtain rfl | rfl | rfl | rfl | rfl | rfl := hf
  · exact Document.unbroken_inLine (.text e.id)
  · exact Document.unbroken_inLine (.text e.role.label)
  · exact Document.unbroken_inLine (.text e.path)
  · exact Document.unbroken_inLine (.integer e.first)
  · exact Document.unbroken_inLine (.integer e.last)
  · simp only [get_enclosing]
    cases e.enclosing with
    | none => exact Document.unbroken_inLine .noRange
    | some r => exact Document.unbroken_inLine_range r.1 r.2

/-- An entity whose record can be read is placed. -/
theorem isPlaced_of_readsAs {kind : Kind} {e : Entity} {r : Document.Record}
    (h : (entityRecord e).ReadsAs (entitySchema kind) r) :
  e.IsPlaced
  := by
  intro first last henclosing
  have hlayout := (wellFormed_entitySchema kind).layout
  obtain ⟨w, hw⟩ := Document.exists_readsAs_of_readFields hlayout (.refl _) h.1.values
  let f : Document.FieldSpec := ⟨"enclosing_range", .range⟩
  have hf : f ∈ (entitySchema kind).layout.fields := by
    change f ∈ entityLayout.fields
    decide
  have hread := hw f hf
  rw [get_enclosing, henclosing, enclosingValue] at hread
  have hvalue := Document.readValue_of_readsAs hlayout hf (by decide) rfl hread
  by_contra hneg
  obtain ⟨reason, herror⟩ := Document.readRange_inLine_of_neg (Int.not_le.1 hneg) last
  rw [Document.readValue, Document.strip_inLine_range, herror] at hvalue
  contradiction

/-- From what is written of entities, they are read back as a document keeps them. -/
theorem State.documented_of_records {s : State} {kind : Kind} {es : List Entity}
    (h : s.records (entitySchema kind)
      = .ok ((es.map entityRecord).map (·.normal (entitySchema kind))))
    (hkind : ∀ e ∈ es, e.kind = kind) :
  s.documented kind = .ok (es.map Entity.normal)
  := by
  have hnormal : (es.map entityRecord).map (·.normal (entitySchema kind))
      = (es.map Entity.normal).map entityRecord := by
    rw [List.map_map, List.map_map]
    apply List.map_congr_left
    intro e _
    apply normal_entityRecord kind e
  rw [State.documented_eq, h, hnormal]
  apply entitiesOf_map_entityRecord
  intro e' he'
  obtain ⟨e, he, rfl⟩ := List.mem_map.1 he'
  apply hkind e he

/-- Whatever a document holds, the entities that are read from it are of its kind, and a document
keeps them as they are. -/
theorem isClean_of_documented {s : State} {kind : Kind} {es : List Entity}
    (h : s.documented kind = .ok es) {e : Entity} (he : e ∈ es) :
  e.IsClean ∧ e.kind = kind
  := by
  rw [State.documented_eq] at h
  obtain ⟨rs, hrs, hes⟩ := bind_eq_ok_iff.1 h
  rw [entitiesOf, mapError_eq_ok_iff] at hes
  obtain ⟨r, hr, heq⟩ := exists_of_mem_mapM hes he
  split at heq
  next hread =>
    cases heq
    apply isClean_of_entityOfRecord
      (isNormal_of_records (wellFormed_entitySchema kind) hrs hr) hread
  · contradiction

/-! ### What the store holds -/

/-- The entities of a kind that the store holds: those that it remembers, or else those that the
document holds. -/
def State.stored (s : State) (kind : Kind) : Except Failure (List Entity) :=
  match s.memory.entities kind with
  | some es => .ok es
  | none => s.documented kind

theorem State.stored_of_some {s : State} {kind : Kind} {es : List Entity}
    (h : s.memory.entities kind = some es) :
  s.stored kind = .ok es
  := by
  rw [State.stored, h]

theorem State.stored_of_none {s : State} {kind : Kind} (h : s.memory.entities kind = none) :
  s.stored kind = s.documented kind
  := by
  rw [State.stored, h]

/-- The second state is the first one with more of the documents remembered. -/
structure Loads (s s' : State) : Prop where
  disk : s'.disk = s.disk
  folder : s'.folder = s.folder
  mint : s'.mint = s.mint
  byId : s'.memory.byId = s.memory.byId
  dependencies : s'.memory.dependencies = s.memory.dependencies
  implementations : s'.memory.implementations = s.memory.implementations
  accounts : s'.memory.accounts = s.memory.accounts
  entities : ∀ kind, s'.memory.entities kind = s.memory.entities kind ∨
    (s.memory.entities kind = none ∧
      ∃ es, s.documented kind = .ok es ∧ s'.memory.entities kind = some es)

namespace Loads

variable {s s' s'' : State}

theorem refl (s : State) :
  Loads s s
  := ⟨rfl, rfl, rfl, rfl, rfl, rfl, rfl, fun _ => .inl rfl⟩

theorem records_eq (h : Loads s s') (schema : Schema) :
  s'.records schema = s.records schema
  := State.records_congr h.disk h.folder schema

theorem documented_eq (h : Loads s s') (kind : Kind) :
  s'.documented kind = s.documented kind
  := by
  rw [State.documented_eq, State.documented_eq, h.records_eq]

theorem stored_eq (h : Loads s s') (kind : Kind) :
  s'.stored kind = s.stored kind
  := by
  obtain hsame | ⟨hnone, es, hes, hsome⟩ := h.entities kind
  · rw [State.stored, State.stored, hsame, h.documented_eq]
  · rw [State.stored_of_some hsome, State.stored_of_none hnone, hes]

theorem trans (h : Loads s s') (h' : Loads s' s'') :
  Loads s s''
  := by
  refine ⟨h'.disk.trans h.disk, h'.folder.trans h.folder, h'.mint.trans h.mint,
    h'.byId.trans h.byId, h'.dependencies.trans h.dependencies,
    h'.implementations.trans h.implementations, h'.accounts.trans h.accounts, ?_⟩
  intro kind
  obtain hsame' | ⟨hnone', es, hes, hsome⟩ := h'.entities kind
  · rw [hsame']
    apply h.entities kind
  · obtain hsame | ⟨hnone, es₀, hes₀, hsome₀⟩ := h.entities kind
    · right
      rw [hsame] at hnone'
      rw [h.documented_eq] at hes
      exact ⟨hnone', es, hes, hsome⟩
    · rw [hsome₀] at hnone'
      contradiction

end Loads

/-- The state after the entities of a kind are read. -/
def State.loading (s : State) (kind : Kind) : State :=
  match s.memory.entities kind, s.documented kind with
  | none, .ok es => { s with memory := s.memory.withEntities kind es }
  | _, _ => s

theorem loads_loading (s : State) (kind : Kind) :
  Loads s (s.loading kind)
  := by
  rw [State.loading]
  split
  next es hnone hes =>
    refine ⟨rfl, rfl, rfl, rfl, rfl, rfl, rfl, ?_⟩
    intro k
    by_cases hk : k = kind
    · subst hk
      right
      exact ⟨hnone, es, hes, by simp [Memory.withEntities]⟩
    · left
      simp [Memory.withEntities, hk]
  · apply Loads.refl s

theorem run_all (kind : Kind) (s : State) :
  run (all kind) s = (s.stored kind, s.loading kind)
  := by
  rw [all, run_get_bind]
  cases hmemory : s.memory.entities kind with
  | some es =>
    simp only [State.stored_of_some hmemory, State.loading, hmemory]
    rfl
  | none =>
    simp only [State.stored_of_none hmemory, State.loading, hmemory]
    cases hes : s.documented kind with
    | error failure => exact run_bind_error (by rw [run_lift]; exact congrArg (·, s) hes) _
    | ok es =>
      rw [run_bind_ok (by rw [run_lift]; exact congrArg (·, s) hes)]
      rfl

theorem answer_all (kind : Kind) (s : State) :
  answer (all kind) s = s.stored kind
  := by
  rw [answer, run_all]

theorem loading_of_error {s : State} {kind : Kind} {failure : Failure}
    (h : s.stored kind = .error failure) :
  s.loading kind = s
  := by
  cases hmemory : s.memory.entities kind with
  | some es =>
    rw [State.stored_of_some hmemory] at h
    contradiction
  | none =>
    rw [State.stored_of_none hmemory] at h
    rw [State.loading, hmemory, h]

/-- Of the second state, the entities and the tokens are as in the first one. -/
structure Aside (s s' : State) : Prop where
  usable : s'.Usable
  mint : s'.mint = s.mint
  entities : s'.memory.entities = s.memory.entities
  byId : s'.memory.byId = s.memory.byId
  records : ∀ kind, s'.records (entitySchema kind) = s.records (entitySchema kind)

theorem Aside.documented_eq {s s' : State} (h : Aside s s') (kind : Kind) :
  s'.documented kind = s.documented kind
  := by
  rw [State.documented_eq, State.documented_eq, h.records]

theorem Aside.stored_eq {s s' : State} (h : Aside s s') (kind : Kind) :
  s'.stored kind = s.stored kind
  := by
  rw [State.stored, State.stored, h.entities, h.documented_eq]

/-! ### Putting entities into the store -/

/-- The entities of a batch in the place of all there were, in order: each has the identity of the
one with its key, or a new one. -/
def renewed (old batch : List Entity) (m : Mint) : List Entity :=
  listed ((assigned (knownIds old) (keyed batch) m).map Prod.snd)

/-- But for identities, a batch is found again as it was put in. -/
theorem found_renewed (old batch : List Entity) (m : Mint) :
  ((renewed old batch m).map (·.withId "")).Perm (batch.map (·.withId ""))
  := by
  have hperm := (listed_perm ((assigned (knownIds old) (keyed batch) m).map Prod.snd)).map
    (·.withId "")
  rwa [map_withId_assigned, map_snd_keyed] at hperm

/-- An entity that is renewed has the identity that is known for its key. -/
theorem exists_keyed_of_mem_renewed {old batch : List Entity} {m : Mint} {e : Entity}
    (h : e ∈ renewed old batch m) :
  ∃ p ∈ keyed batch, e = p.2.withId e.id ∧
    ∀ id, knownId? (knownIds old) p.1 = some id → e.id = id
  := by
  have hmem := (listed_perm _).mem_iff.1 h
  obtain ⟨⟨key, e⟩, hassigned, rfl⟩ := List.mem_map.1 hmem
  obtain ⟨d, hd, heq⟩ := exists_of_mem_assigned hassigned
  exact ⟨_, hd, heq, fun id hid => id_of_mem_assigned hassigned hid⟩

/-- In the second state the store holds these entities of a kind, and has taken some tokens. -/
structure Saved (s s' : State) (kind : Kind) (es : List Entity) (taken : Nat) : Prop where
  wrote : Wrote s s' (entitySchema kind) (es.map entityRecord)
  mint : s'.mint = s.mint.skip taken
  memory : s'.memory = { s.memory.withEntities kind es with byId := none }

namespace Saved

variable {s s' : State} {kind : Kind} {es : List Entity} {taken : Nat}

theorem entities_self (h : Saved s s' kind es taken) :
  s'.memory.entities kind = some es
  := by
  rw [h.memory]
  exact if_pos rfl

theorem entities_of_ne (h : Saved s s' kind es taken) {kind' : Kind} (hne : kind' ≠ kind) :
  s'.memory.entities kind' = s.memory.entities kind'
  := by
  rw [h.memory]
  exact if_neg hne

/-- The document holds the entities as documents keep them. -/
theorem documented_self (h : Saved s s' kind es taken)
    (hes : ∀ e ∈ es, e.kind = kind ∧ e.IsPlaced) :
  s'.documented kind = .ok (es.map Entity.normal)
  := State.documented_of_records (h.wrote.written (fits_of_placed fun e he => (hes e he).2))
    fun e he => (hes e he).1

/-- If the document can be read at all, the entities are placed. -/
theorem isPlaced_of_documented (h : Saved s s' kind es taken) {ds : List Entity}
    (hds : s'.documented kind = .ok ds) :
  ∀ e ∈ es, e.IsPlaced
  := by
  have hunbroken : ∀ r ∈ es.map entityRecord, r.Unbroken (entitySchema kind) := by
    intro r hr
    obtain ⟨e, -, rfl⟩ := List.mem_map.1 hr
    apply unbroken_entityRecord
  rw [State.documented_eq, h.wrote.records_eq] at hds
  obtain ⟨rs, hrs, -⟩ := bind_eq_ok_iff.1 hds
  rw [recordsOfContent_encode_iff (wellFormed_entitySchema kind) hunbroken,
    List.forall₂_map_left_iff] at hrs
  intro e he
  obtain ⟨r, -, hr⟩ := exists_of_forall₂_left hrs he
  apply isPlaced_of_readsAs hr

theorem records_of_ne (h : Saved s s' kind es taken) {schema : Schema} (hs : schema ∈ schemas)
    (hne : schema ≠ entitySchema kind) :
  s'.records schema = s.records schema
  := h.wrote.kept schema hs hne

theorem documented_of_ne (h : Saved s s' kind es taken) {kind' : Kind} (hne : kind' ≠ kind) :
  s'.documented kind' = s.documented kind'
  := by
  have hschema : entitySchema kind' ≠ entitySchema kind := by
    intro heq
    apply hne (entitySchema_injective heq)
  rw [State.documented_eq, State.documented_eq,
    h.records_of_ne (entitySchema_mem_schemas kind') hschema]

theorem stored_self (h : Saved s s' kind es taken) :
  s'.stored kind = .ok es
  := State.stored_of_some h.entities_self

theorem stored_of_ne (h : Saved s s' kind es taken) {kind' : Kind} (hne : kind' ≠ kind) :
  s'.stored kind' = s.stored kind'
  := by
  rw [State.stored, State.stored, h.entities_of_ne hne, h.documented_of_ne hne]

/-- The store then holds these entities of the kind, and those of the other kinds that it held. -/
theorem stored_update (h : Saved s s' kind es taken) {held : Kind → List Entity}
    (hheld : ∀ kind, s.stored kind = .ok (held kind)) :
  ∀ kind', s'.stored kind' = .ok (Function.update held kind es kind')
  := by
  rw [Function.forall_update_iff held fun kind' l => s'.stored kind' = .ok l]
  use h.stored_self
  intro kind' hne
  rw [h.stored_of_ne hne, hheld]

end Saved

theorem withEntities_loading (s : State) (kind : Kind) (es : List Entity) :
  (s.loading kind).memory.withEntities kind es = s.memory.withEntities kind es
  := by
  rw [State.loading]
  split
  · simp only [Memory.withEntities]
    congr 1
    funext k
    split <;> rfl
  · rfl

theorem run_assign {kind : Kind} {batch : List Entity} (h : ∀ e ∈ batch, e.kind = kind)
    (known : List (IdentityKey × String)) (s : State) :
  run (assign kind known batch) s
    = (.ok (assigned known (keyed batch) s.mint),
        { s with mint := s.mint.skip ((keyed batch).countP (isNew known)) })
  := by
  have hnone : batch.find? (·.kind != kind) = none := by
    rw [List.find?_eq_none]
    intro e he
    simpa using h e he
  rw [assign, hnone]
  apply run_assignIds known (keyed batch) s

/-- A batch with an entity of another kind is assigned no identities. -/
theorem run_assign_of_foreign {kind : Kind} {batch : List Entity}
    (h : ∃ e ∈ batch, e.kind ≠ kind) (known : List (IdentityKey × String)) (s : State) :
  ∃ e ∈ batch, e.kind ≠ kind ∧
    run (assign kind known batch) s = (.error (.argument (foreignEntity kind e)), s)
  := by
  obtain ⟨e, he, hkind⟩ := h
  cases hfind : batch.find? (·.kind != kind) with
  | some d =>
    refine ⟨d, List.mem_of_find?_eq_some hfind, by simpa using List.find?_some hfind, ?_⟩
    rw [assign, hfind, run_throw]
  | none => exact absurd (List.find?_eq_none.1 hfind e he) (by simpa using hkind)

section

variable {s : State} {kind : Kind} {current batch : List Entity} {failure : Failure}

theorem run_assign_loading (hbatch : ∀ e ∈ batch, e.kind = kind) :
  run (assign kind (knownIds current) batch) (s.loading kind)
    = (.ok (assigned (knownIds current) (keyed batch) s.mint),
        { s.loading kind with mint := s.mint.skip (newCount current batch) })
  := by
  rw [run_assign hbatch, (loads_loading s kind).mint]
  rfl

/-- Saving entities after those of the kind were read and tokens were taken. -/
theorem run_save (h : s.Usable) (es : List Entity) (taken : Nat) :
  ∃ s', run (save kind es) { s.loading kind with mint := s.mint.skip taken } = (.ok (), s') ∧
    Saved s s' kind (listed es) taken
  := by
  have hloads := loads_loading s kind
  have husable : State.Usable { s.loading kind with mint := s.mint.skip taken } :=
    h.congr hloads.disk hloads.folder
  obtain ⟨disk, hrun, hwrote⟩ := run_writeDocument husable (entitySchema_mem_schemas kind)
    ((listed es).map entityRecord)
  use { (s.loading kind).withDisk disk with
    mint := s.mint.skip taken
    memory := { s.memory.withEntities kind (listed es) with byId := none } }
  constructor
  · rw [save, run_bind_ok hrun, run_remember, ← withEntities_loading s kind]
    rfl
  · exact ⟨hwrote.congr hloads.disk.symm hloads.folder.symm rfl rfl, rfl, rfl⟩

namespace Manner

variable (manner : Manner)

/-- Puts a batch among the entities of a kind. -/
def put : Manner → Kind → List Entity → Action (List Entity)
  | merge => upsertMany
  | replace => replaceAll

theorem put_eq (kind : Kind) (batch : List Entity) :
  manner.put kind batch = do
    let current ← all kind
    let r ← assign kind (knownIds current) batch
    save kind (manner.result current r)
    return r.map Prod.snd
  := by
  cases manner <;> rfl

/-- A batch of the kind is put in, and its entities are answered with their identities. -/
theorem run_put (h : s.Usable) (hcurrent : s.stored kind = .ok current)
    (hbatch : ∀ e ∈ batch, e.kind = kind) :
  ∃ s', run (manner.put kind batch) s
      = (.ok ((assigned (knownIds current) (keyed batch) s.mint).map Prod.snd), s') ∧
    Saved s s' kind
      (listed (manner.result current (assigned (knownIds current) (keyed batch) s.mint)))
      (newCount current batch)
  := by
  obtain ⟨s', hsave, hsaved⟩ := run_save h
    (manner.result current (assigned (knownIds current) (keyed batch) s.mint))
    (newCount current batch)
  refine ⟨s', ?_, hsaved⟩
  have hall : run (all kind) s = (.ok current, s.loading kind) := by rw [run_all, hcurrent]
  rw [put_eq, run_bind_ok hall, run_bind_ok (run_assign_loading hbatch), run_bind_ok hsave,
    run_pure]

/-- Where the entities of a kind cannot be read, putting some in leaves all as it is. -/
theorem run_put_of_error (h : s.stored kind = .error failure) :
  run (manner.put kind batch) s = (.error failure, s)
  := by
  have hall : run (all kind) s = (.error failure, s) := by
    rw [run_all, h, loading_of_error h]
  rw [put_eq, run_bind_error hall]

/-- A batch with an entity of another kind is not put in. -/
theorem run_put_of_foreign (hcurrent : s.stored kind = .ok current)
    (h : ∃ e ∈ batch, e.kind ≠ kind) :
  ∃ e ∈ batch, e.kind ≠ kind ∧
    run (manner.put kind batch) s
      = (.error (.argument (foreignEntity kind e)), s.loading kind)
  := by
  have hall : run (all kind) s = (.ok current, s.loading kind) := by rw [run_all, hcurrent]
  obtain ⟨e, he, hne, hassign⟩ := run_assign_of_foreign h (knownIds current) (s.loading kind)
  refine ⟨e, he, hne, ?_⟩
  rw [put_eq, run_bind_ok hall, run_bind_error hassign]

end Manner

end

end AnchorIndex.Store
