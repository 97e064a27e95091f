import AnchorIndex.Proofs.Store.Keeping

/-!
# Loading documents beforehand

A store reads a document when it is first needed. That it has read some documents before makes no
difference: every operation of a usable store answers the same then, and afterwards the two states
differ in this way only (`Steady`). So they answer the same after every run
(`Preloads.sameQueries_afterAll`).
-/

namespace AnchorIndex.Store

open Effect
open Document (Schema)

variable {α β : Type}

/-! ### Steady operations -/

/-- The first state is usable, and the second one is the first one with more of the documents
remembered. -/
structure Preloads (s t : State) : Prop where
  usable : s.Usable
  loads : Loads s t

/-- The operation does not depend on which documents were loaded beforehand. -/
def Steady (x : Action α) : Prop :=
  ∀ s t, Preloads s t → ∃ r s' t', run x s = (r, s') ∧ run x t = (r, t') ∧ Preloads s' t'

theorem Steady.answer_eq {x : Action α} (hx : Steady x) {s t : State} (h : Preloads s t) :
  answer x t = answer x s
  := by
  obtain ⟨r, s', t', hs, ht, -⟩ := hx s t h
  rw [answer, answer, hs, ht]

theorem Steady.after {x : Action α} (hx : Steady x) {s t : State} (h : Preloads s t) :
  Preloads (after x s) (after x t)
  := by
  obtain ⟨r, s', t', hs, ht, h'⟩ := hx s t h
  rw [Effect.after, Effect.after, hs, ht]
  apply h'

theorem steady_pure (a : α) :
  Steady (pure a : Action α)
  := fun s t h => ⟨_, s, t, rfl, rfl, h⟩

theorem steady_throw (failure : Failure) :
  Steady (throw failure : Action α)
  := fun s t h => ⟨_, s, t, rfl, rfl, h⟩

theorem Steady.bind {x : Action α} {f : α → Action β} (hx : Steady x) (hf : ∀ a, Steady (f a)) :
  Steady (x >>= f)
  := by
  intro s t h
  obtain ⟨r, s', t', hs, ht, h'⟩ := hx s t h
  cases r with
  | error failure => exact ⟨_, s', t', run_bind_error hs f, run_bind_error ht f, h'⟩
  | ok a =>
    rw [run_bind_ok hs, run_bind_ok ht]
    apply hf a s' t' h'

/-! ### Reading entities -/

section

variable {s t : State} {kind : Kind} {es : List Entity}

theorem Loads.withEntities (h : Loads s t) (kind : Kind) (es : List Entity) :
  Loads { s with memory := s.memory.withEntities kind es }
    { t with memory := t.memory.withEntities kind es }
  := by
  refine ⟨h.disk, h.folder, h.mint, h.byId, h.dependencies, h.implementations, h.accounts, ?_⟩
  intro k
  by_cases hk : k = kind
  · left
    simp [Memory.withEntities, hk]
  · simp only [Memory.withEntities, if_neg hk]
    apply h.entities k

theorem withEntities_eq_self {m : Memory} (h : m.entities kind = some es) :
  m.withEntities kind es = m
  := by
  rw [Memory.withEntities]
  congr 1
  funext k
  split
  next hk => rw [hk, h]
  · rfl

/-- Loading the entities of a kind leaves the difference, or less of it. -/
theorem Loads.loading (h : Loads s t) (kind : Kind) :
  Loads (s.loading kind) (t.loading kind)
  := by
  have hdocumented := h.documented_eq kind
  obtain hsame | ⟨hnone, es, hes, hsome⟩ := h.entities kind
  · rw [State.loading, State.loading, hsame, hdocumented]
    cases s.memory.entities kind with
    | some _ => exact h
    | none =>
      cases s.documented kind with
      | error _ => exact h
      | ok es => exact h.withEntities kind es
  · rw [State.loading, State.loading, hsome, hnone, hes]
    have hwith := h.withEntities kind es
    rwa [withEntities_eq_self hsome] at hwith

theorem Preloads.loading (h : Preloads s t) (kind : Kind) :
  Preloads (s.loading kind) (t.loading kind)
  := by
  have hloads := loads_loading s kind
  exact ⟨h.usable.congr hloads.disk hloads.folder, h.loads.loading kind⟩

end

theorem steady_all (kind : Kind) :
  Steady (all kind)
  := by
  intro s t h
  refine ⟨_, _, _, run_all kind s, ?_, h.loading kind⟩
  rw [run_all, h.loads.stored_eq]

theorem steady_query (kind : Kind) (name : Option String) (role : Option Role) :
  Steady (query kind name role)
  := (steady_all kind).bind fun _ => steady_pure _

theorem steady_allOf (kinds : List Kind) :
  Steady (allOf kinds)
  := by
  induction kinds with
  | nil => exact steady_pure []
  | cons kind rest ih => exact (steady_all kind).bind fun _ => ih.bind fun _ => steady_pure _

theorem steady_byId :
  Steady byId
  := by
  have hbuild : Steady (allOf Kind.all >>= fun es =>
      remember (fun m => { m with byId := some (indexById es) }) >>= fun _ =>
        pure (indexById es)) := by
    apply (steady_allOf Kind.all).bind
    intro es s t h
    refine ⟨_, _, _, rfl, rfl, h.usable.congr rfl rfl, ?_⟩
    exact ⟨h.loads.disk, h.loads.folder, h.loads.mint, rfl, h.loads.dependencies,
      h.loads.implementations, h.loads.accounts, h.loads.entities⟩
  intro s t h
  rw [byId, run_get_bind, run_get_bind, h.loads.byId]
  cases s.memory.byId with
  | some index => exact ⟨_, s, t, rfl, rfl, h⟩
  | none => exact hbuild s t h

theorem steady_find? (id : String) :
  Steady (find? id)
  := steady_byId.bind fun _ => steady_pure _

theorem steady_read (id : String) :
  Steady (read id)
  := by
  apply (steady_find? id).bind
  intro e?
  cases e? with
  | none => exact steady_throw _
  | some e => exact steady_pure e

theorem steady_locate (id : String) :
  Steady (locate id)
  := (steady_read id).bind fun _ => steady_pure _

/-! ### Writing documents -/

/-- What the operation does to the disk depends on the disk and the folder only, and nothing else
is changed. -/
def DependsOnDisk (x : Action Unit) : Prop :=
  ∀ s : State, ∃ r disk, ∀ t : State, t.disk = s.disk → t.folder = s.folder →
    run x t = (r, t.withDisk disk)

theorem dependsOnDisk_prepareFolder :
  DependsOnDisk prepareFolder
  := by
  intro s
  cases hmade : s.disk.makeFolders s.folder with
  | mk made disk =>
    have hmade' : ∀ t : State, t.disk = s.disk → t.folder = s.folder →
        t.disk.makeFolders t.folder = (made, disk) := by
      intro t hdisk hfolder
      rw [hdisk, hfolder, hmade]
    cases made with
    | ok _ =>
      refine ⟨.ok (), disk, ?_⟩
      intro t hdisk hfolder
      rw [prepareFolder, run_get_bind, hmade' t hdisk hfolder]
      rfl
    | error refusal =>
      refine ⟨.error (.refused refusal), disk, ?_⟩
      intro t hdisk hfolder
      rw [prepareFolder, run_get_bind, hmade' t hdisk hfolder]
      rfl

theorem dependsOnDisk_change (f : Files.Disk → Except Files.Refusal Files.Disk) :
  DependsOnDisk (change f)
  := by
  intro s
  cases hf : f s.disk with
  | ok disk =>
    refine ⟨.ok (), disk, ?_⟩
    intro t hdisk _
    rw [change, run_get_bind, hdisk, hf]
    rfl
  | error refusal =>
    refine ⟨.error (.refused refusal), s.disk, ?_⟩
    intro t hdisk _
    rw [change, run_get_bind, hdisk, hf, ← hdisk]
    rfl

theorem DependsOnDisk.bind {x y : Action Unit} (hx : DependsOnDisk x) (hy : DependsOnDisk y) :
  DependsOnDisk (x >>= fun _ => y)
  := by
  intro s
  obtain ⟨r, disk, hrun⟩ := hx s
  cases r with
  | error failure =>
    refine ⟨.error failure, disk, ?_⟩
    intro t hdisk hfolder
    apply run_bind_error (hrun t hdisk hfolder) _
  | ok u =>
    obtain ⟨r', disk', hrun'⟩ := hy (s.withDisk disk)
    refine ⟨r', disk', ?_⟩
    intro t hdisk hfolder
    rw [run_bind_ok (hrun t hdisk hfolder)]
    apply hrun' (t.withDisk disk) rfl hfolder

theorem dependsOnDisk_writeDocument (schema : Schema) (rs : List Document.Record) :
  DependsOnDisk (writeDocument schema rs)
  := by
  intro s
  obtain ⟨r, disk, hrun⟩ := dependsOnDisk_prepareFolder.bind
    ((dependsOnDisk_change fun disk =>
        disk.write (s.documentPath schema.document ++ ".tmp") (.text (Document.encode schema rs))).bind
      (dependsOnDisk_change fun disk =>
        disk.move (s.documentPath schema.document ++ ".tmp") (s.documentPath schema.document))) s
  refine ⟨r, disk, ?_⟩
  intro t hdisk hfolder
  have hpath : t.documentPath schema.document = s.documentPath schema.document := by
    rw [State.documentPath, State.documentPath, hfolder]
  rw [writeDocument, run_get_bind, hpath]
  apply hrun t hdisk hfolder

/-- Writing a document does the same in both states. -/
theorem Preloads.run_writeDocument {s t : State} (h : Preloads s t) {schema : Schema}
    (hs : schema ∈ schemas) (rs : List Document.Record) :
  ∃ disk, run (writeDocument schema rs) s = (.ok (), s.withDisk disk) ∧
    run (writeDocument schema rs) t = (.ok (), t.withDisk disk) ∧
    Wrote s (s.withDisk disk) schema rs
  := by
  obtain ⟨disk, hrun, hwrote⟩ := Store.run_writeDocument h.usable hs rs
  obtain ⟨r, disk', hboth⟩ := dependsOnDisk_writeDocument schema rs s
  have hsame := hboth s rfl rfl
  rw [hrun] at hsame
  injection hsame with hr hstate
  have hdisk : disk = disk' := congrArg State.disk hstate
  subst hr hdisk
  exact ⟨disk, hrun, hboth t h.loads.disk h.loads.folder, hwrote⟩

/-! ### Putting entities in -/

theorem steady_mintId :
  Steady mintId
  := by
  intro s t h
  refine ⟨_, _, { t with mint := s.mint.skip 1 }, run_mintId s, ?_, h.usable.congr rfl rfl, ?_⟩
  · rw [run_mintId, h.loads.mint]
  · exact ⟨h.loads.disk, h.loads.folder, rfl, h.loads.byId, h.loads.dependencies,
      h.loads.implementations, h.loads.accounts, h.loads.entities⟩

theorem steady_assignIds (known : List (IdentityKey × String)) (l : List (IdentityKey × Entity)) :
  Steady (assignIds known l)
  := by
  induction l with
  | nil => exact steady_pure []
  | cons p rest ih =>
    obtain ⟨key, e⟩ := p
    rw [assignIds]
    cases knownId? known key with
    | some id => exact (steady_pure id).bind fun _ => ih.bind fun _ => steady_pure _
    | none => exact steady_mintId.bind fun _ => ih.bind fun _ => steady_pure _

theorem steady_assign (kind : Kind) (known : List (IdentityKey × String)) (batch : List Entity) :
  Steady (assign kind known batch)
  := by
  rw [assign]
  cases batch.find? (·.kind != kind) with
  | some e => exact steady_throw _
  | none => exact steady_assignIds known (keyed batch)

/-- Once the entities of a kind are saved, both states remember them, whether they were loaded
before or not. -/
theorem steady_save (kind : Kind) (es : List Entity) :
  Steady (save kind es)
  := by
  intro s t h
  obtain ⟨disk, hs, ht, hwrote⟩ := h.run_writeDocument (entitySchema_mem_schemas kind)
    ((listed es).map entityRecord)
  have hloads := h.loads.withEntities kind (listed es)
  refine ⟨_, _, _, run_bind_ok hs _, run_bind_ok ht _, hwrote.usable.congr rfl rfl, ?_⟩
  refine ⟨rfl, hloads.folder, hloads.mint, rfl, hloads.dependencies, hloads.implementations,
    hloads.accounts, ?_⟩
  intro k
  obtain hsame | ⟨hnone, ds, hds, hsome⟩ := hloads.entities k
  · exact .inl hsame
  · refine .inr ⟨hnone, ds, ?_, hsome⟩
    have hk : entitySchema k ≠ entitySchema kind := by
      intro heq
      rw [entitySchema_injective heq] at hnone
      simp [Memory.withEntities] at hnone
    have hrecords := hwrote.kept _ (entitySchema_mem_schemas k) hk
    change s.documented k = .ok ds at hds
    rw [State.documented_eq] at hds ⊢
    rw [← hds, ← hrecords]
    rfl

theorem steady_put (manner : Manner) (kind : Kind) (batch : List Entity) :
  Steady (manner.put kind batch)
  := by
  rw [Manner.put_eq]
  apply (steady_all kind).bind
  intro current
  apply (steady_assign kind _ batch).bind
  intro r
  exact (steady_save kind _).bind fun _ => steady_pure _

/-! ### Records -/

namespace Shelf

variable (shelf : Shelf α)

/-- Remembering records of the shelf leaves the difference. -/
def LeavesLoads : Prop :=
  ∀ s t index, Loads s t → Loads (shelf.consulted index s) (shelf.consulted index t)

end Shelf

theorem leavesLoads_dependencyShelf :
  dependencyShelf.LeavesLoads
  := by
  intro s t index h
  exact ⟨h.disk, h.folder, h.mint, h.byId, rfl, h.implementations, h.accounts, h.entities⟩

theorem leavesLoads_implementationShelf :
  implementationShelf.LeavesLoads
  := by
  intro s t index h
  exact ⟨h.disk, h.folder, h.mint, h.byId, h.dependencies, rfl, h.accounts, h.entities⟩

theorem leavesLoads_accountsShelf :
  accountsShelf.LeavesLoads
  := by
  intro s t index h
  exact ⟨h.disk, h.folder, h.mint, h.byId, h.dependencies, h.implementations, rfl, h.entities⟩

section

variable {shelf : Shelf α} (hshelf : shelf.LeavesLoads)

include hshelf

theorem steady_remember (index : List (String × α)) :
  Steady (remember (shelf.remembering index))
  := by
  intro s t h
  exact ⟨_, _, _, rfl, rfl, h.usable.congr rfl rfl, hshelf s t index h.loads⟩

omit hshelf in
theorem steady_writeDocument (rs : List Document.Record) :
  Steady (writeDocument shelf.schema rs)
  := by
  intro s t h
  obtain ⟨disk, hs, ht, hwrote⟩ := h.run_writeDocument shelf.mem_schemas rs
  refine ⟨_, _, _, hs, ht, hwrote.usable, rfl, h.loads.folder, h.loads.mint, h.loads.byId,
    h.loads.dependencies, h.loads.implementations, h.loads.accounts, ?_⟩
  intro kind
  obtain hsame | ⟨hnone, es, hes, hsome⟩ := h.loads.entities kind
  · exact .inl hsame
  · refine .inr ⟨hnone, es, ?_, hsome⟩
    rw [State.documented_eq] at hes ⊢
    rw [hwrote.kept _ (entitySchema_mem_schemas kind) (shelf.ne_entitySchema kind).symm, hes]

theorem steady_consult
    (hremembered : ∀ s t, Loads s t → shelf.remembered t.memory = shelf.remembered s.memory) :
  Steady shelf.consult
  := by
  intro s t h
  rw [Shelf.consult, run_get_bind, run_get_bind, hremembered s t h.loads]
  cases shelf.remembered s.memory with
  | some index => exact ⟨_, s, t, rfl, rfl, h⟩
  | none =>
    have hread : Steady (readDocument shelf.schema) := by
      intro s t h
      refine ⟨_, s, t, run_readDocument shelf.schema s, ?_, h⟩
      rw [run_readDocument, h.loads.records_eq]
    have hconsult : Steady (readDocument shelf.schema >>= fun rs =>
        remember (shelf.remembering (indexRecords shelf.key (rs.map shelf.ofRecord))) >>= fun _ =>
          pure (indexRecords shelf.key (rs.map shelf.ofRecord))) :=
      hread.bind fun _ => (steady_remember hshelf _).bind fun _ => steady_pure _
    exact hconsult s t h

theorem steady_file (index : List (String × α)) (rs : List α) :
  Steady (shelf.file index rs)
  := (steady_remember hshelf index).bind fun _ => steady_writeDocument _

theorem steady_replace (rs : List α) :
  Steady (shelf.replace rs)
  := (steady_writeDocument _).bind fun _ => steady_remember hshelf _

end

theorem steady_dependencyIndex :
  Steady dependencyIndex
  := by
  rw [dependencyIndex_eq]
  apply steady_consult leavesLoads_dependencyShelf fun s t h => h.dependencies

theorem steady_implementationIndex :
  Steady implementationIndex
  := by
  rw [implementationIndex_eq]
  apply steady_consult leavesLoads_implementationShelf fun s t h => h.implementations

theorem steady_accountsIndex :
  Steady accountsIndex
  := by
  rw [accountsIndex_eq]
  apply steady_consult leavesLoads_accountsShelf fun s t h => h.accounts

theorem steady_putDependencies (rs : List CallGraph.Record) :
  Steady (putDependencies rs)
  := by
  rw [putDependencies_eq, ← dependencyIndex_eq]
  apply steady_dependencyIndex.bind
  intro index
  apply steady_file leavesLoads_dependencyShelf

/-! ### Runs -/

/-- No operation makes a difference between the states but for what is loaded. -/
theorem Preloads.operation {s t : State} (h : Preloads s t) (o : Operation) :
  Preloads (o.after s) (o.after t)
  := by
  cases o with
  | upsert kind e => exact (steady_put .merge kind [e]).after h
  | upsertMany kind batch => exact (steady_put .merge kind batch).after h
  | replaceAll kind batch => exact (steady_put .replace kind batch).after h
  | putDependencies rs => exact (steady_putDependencies rs).after h
  | clearDependencies => exact (steady_file leavesLoads_dependencyShelf [] []).after h
  | replaceImplementations rs =>
    exact (steady_replace leavesLoads_implementationShelf _).after h
  | replaceAccounts rs => exact (steady_replace leavesLoads_accountsShelf _).after h
  | all kind => exact (steady_all kind).after h
  | query kind name role => exact (steady_query kind name role).after h
  | find id => exact (steady_find? id).after h
  | read id => exact (steady_read id).after h
  | locate id => exact (steady_locate id).after h
  | dependency ownerId => exact (steady_dependencyIndex.bind fun _ => steady_pure _).after h
  | dependencies => exact (steady_dependencyIndex.bind fun _ => steady_pure _).after h
  | implementation id => exact (steady_implementationIndex.bind fun _ => steady_pure _).after h
  | implementations => exact (steady_implementationIndex.bind fun _ => steady_pure _).after h
  | accountsOf structId => exact (steady_accountsIndex.bind fun _ => steady_pure _).after h
  | accountsRecords => exact (steady_accountsIndex.bind fun _ => steady_pure _).after h
  | reopen =>
    have hsame : t.reopened = s.reopened := by
      rw [State.reopened, State.reopened, h.loads.disk, h.loads.folder, h.loads.mint]
    rw [Operation.after, hsame]
    exact ⟨h.usable.congr rfl rfl, .refl _⟩

theorem Preloads.afterAll {s t : State} (h : Preloads s t) (ops : List Operation) :
  Preloads (s.afterAll ops) (t.afterAll ops)
  := by
  induction ops generalizing s t with
  | nil => exact h
  | cons o rest ih => exact ih (h.operation o)

/-- Both states answer the same. -/
theorem Preloads.sameQueries {s t : State} (h : Preloads s t) :
  SameQueries s t
  := by
  constructor
  · intro kind
    apply (steady_all kind).answer_eq h
  · intro kind name role
    apply (steady_query kind name role).answer_eq h
  · intro id
    apply (steady_find? id).answer_eq h
  · intro id
    apply (steady_read id).answer_eq h
  · intro id
    apply (steady_locate id).answer_eq h
  · apply sameRecords_of_memory
    · intro α shelf
      apply h.loads.records_eq
    · apply h.loads.dependencies
    · apply h.loads.implementations
    · apply h.loads.accounts

/-- Both states answer the same after every run. -/
theorem Preloads.sameQueries_afterAll {s t : State} (h : Preloads s t) (ops : List Operation) :
  SameQueries (s.afterAll ops) (t.afterAll ops)
  := (h.afterAll ops).sameQueries

end AnchorIndex.Store
