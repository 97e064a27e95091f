import AnchorIndex.Proofs.Session.Scanning

/-!
# The stages of a scan

A scan walks the files, finds out about the program, and then stores what it found
(`scanFound`). Up to then it only reads (`OnlyReads`): a scan that fails before leaves the
documents and what the store holds as they are (`scan_cases`).
-/

namespace AnchorIndex.Session

open Effect
open Files (SourceFile Walk)
open Store (Loads)

variable {α β : Type}

/-! ### Parts that only read -/

/-- The operation may read documents and sources, but changes nothing in the store, and no
members. -/
def OnlyReads (x : Action α) : Prop :=
  ∀ s, Loads s.store (after x s).store ∧ (after x s).members = s.members

/-- A result of a part that only reads comes with a state in which nothing is changed. -/
theorem OnlyReads.of_run {x : Action α} (h : OnlyReads x) {s s' : State} {r : Except Failure α}
    (hrun : run x s = (r, s')) :
  Loads s.store s'.store ∧ s'.members = s.members
  := by
  have hs := h s
  rwa [after, hrun] at hs

theorem onlyReads_pure (a : α) :
  OnlyReads (pure a)
  := fun s => ⟨Loads.refl s.store, rfl⟩

theorem onlyReads_lift (r : Except Failure α) :
  OnlyReads (lift r)
  := by
  intro s
  rw [after, run_lift]
  exact ⟨Loads.refl s.store, rfl⟩

theorem onlyReads_throw (failure : Failure) :
  OnlyReads (throw failure : Action α)
  := fun s => ⟨Loads.refl s.store, rfl⟩

theorem OnlyReads.bind {x : Action α} {f : α → Action β} (hx : OnlyReads x)
    (hf : ∀ a, OnlyReads (f a)) :
  OnlyReads (x >>= f)
  := by
  intro s
  rw [after, run_bind]
  cases hrun : run x s with
  | mk r s' =>
    obtain ⟨hloads, hmembers⟩ := hx.of_run hrun
    cases r with
    | error failure => exact ⟨hloads, hmembers⟩
    | ok a =>
      obtain ⟨hloads', hmembers'⟩ := hf a s'
      exact ⟨hloads.trans hloads', hmembers'.trans hmembers⟩

theorem onlyReads_get_bind {f : State → Action β} (hf : ∀ s, OnlyReads (f s)) :
  OnlyReads (get >>= f)
  := by
  intro s
  rw [after, run_get_bind]
  apply hf s

theorem answer_onStore_all (kind : Kind) (s : State) :
  answer (onStore (Store.all kind)) s = s.store.stored kind
  := by
  rw [answer, run_onStore, Store.run_all]

theorem onlyReads_all (kind : Kind) :
  OnlyReads (onStore (Store.all kind))
  := by
  intro s
  rw [after, run_onStore, Store.run_all]
  exact ⟨Store.loads_loading s.store kind, rfl⟩

theorem onlyReads_query (kind : Kind) (name : Option String) (role : Option Role) :
  OnlyReads (onStore (Store.query kind name role))
  := by
  intro s
  have hafter : Store.Effect.after (Store.query kind name role) s.store
      = Store.Effect.after (Store.all kind) s.store := by
    rw [Store.query, Store.Effect.after_bind_eq fun _ _ => rfl]
  rw [after, run_onStore]
  change Loads s.store (Store.Effect.after (Store.query kind name role) s.store) ∧ _
  rw [hafter]
  apply onlyReads_all kind s

/-- Of the stored entities of a kind, all are read. -/
theorem stored_of_run_all {kind : Kind} {found : List Entity} {t t' : State}
    (h : run (onStore (Store.all kind)) t = (.ok found, t')) :
  t.store.stored kind = .ok found
  := by
  rw [← answer_onStore_all, answer, h]

/-- Of the stored entities of a kind, those that are asked for are read. -/
theorem exists_stored_of_run_query {kind : Kind} {name : Option String} {role : Option Role}
    {found : List Entity} {t t' : State}
    (h : run (onStore (Store.query kind name role)) t = (.ok found, t')) :
  ∃ es, t.store.stored kind = .ok es ∧
    found = es.filter fun e => (name.all fun n => e.name == n) && (role.all fun r => e.role == r)
  := by
  obtain ⟨store, hstore, -⟩ := exists_of_run_onStore h
  obtain ⟨es, store', hall, hfilter⟩ := Store.Effect.exists_of_run_bind hstore
  rw [Store.run_all, Prod.mk.injEq] at hall
  cases hfilter
  exact ⟨es, hall.1, rfl⟩

theorem onlyReads_sourceLines (path : String) :
  OnlyReads (sourceLines path)
  := by
  apply onlyReads_get_bind
  intro s
  split
  · apply onlyReads_pure
  · split
    · apply onlyReads_throw
    · apply onlyReads_throw
    · intro t
      exact ⟨Loads.refl t.store, rfl⟩

theorem onlyReads_program (files : List SourceFile) :
  OnlyReads (program files)
  := by
  apply onlyReads_get_bind
  intro s
  apply (onlyReads_lift _).bind
  intro path?
  split
  · apply onlyReads_pure
  · split
    · apply onlyReads_pure
    · apply (onlyReads_sourceLines _).bind
      intro lines
      apply onlyReads_pure

theorem onlyReads_linesAt (files : List SourceFile) (path : String) :
  OnlyReads (linesAt files path)
  := by
  rw [linesAt]
  split
  · apply onlyReads_pure
  · apply onlyReads_sourceLines

theorem onlyReads_accountsRecordsOf (files : List SourceFile) (es : List Entity) :
  OnlyReads (accountsRecordsOf files es)
  := by
  induction es with
  | nil => apply onlyReads_pure
  | cons e es ih =>
    apply (onlyReads_linesAt files e.path).bind
    intro lines
    split
    · apply onlyReads_throw
    · apply ih.bind
      intro records
      apply onlyReads_pure

/-! ### Stages -/

/-- What a scan does once the files are walked and the program is known. -/
def scanFound (found : Walk) (known : Program) (kinds : List Kind) : Action Summary := do
  let scanned := scanKinds found.files known kinds
  storeScanned scanned kinds
  onStore Store.clearDependencies
  let implementations ← rebuildImplementations
  let accountStructs ← rebuildAccounts found.files
  return {
    filesScanned := found.files.length
    byKind := scanned.map fun (k, es) => (k, es.length)
    implementations := implementations
    accountStructs := accountStructs
    libPath := known.libPath
    entrypoints := known.entrypoints.map (·.name)
    skipped := found.skippedLarge
    errors := found.errors }

/-- Building the implementation records reads what is stored, builds the record of each block, and
puts the records in the place of all others. -/
theorem exists_built_of_run_rebuildImplementations {t t' : State} {n : Nat}
    (h : run rebuildImplementations t = (.ok n, t')) :
  ∃ functions traits blocks records t₁, Loads t.store t₁.store ∧ t₁.members = t.members ∧
    t.store.stored .function = .ok functions ∧
    (∃ es, t.store.stored .trait = .ok es ∧ ∀ e ∈ traits, e ∈ es) ∧
    t.store.stored .implementation = .ok blocks ∧
    blocks.mapM (Implementation.Record.buildChecked · functions (definitionsByName traits))
      = .ok records ∧
    run (onStore (Store.replaceImplementations records)) t₁ = (.ok (), t')
  := by
  obtain ⟨functions, t₁, hfunctions, h⟩ := exists_of_run_bind h
  obtain ⟨traits, t₂, htraits, h⟩ := exists_of_run_bind h
  obtain ⟨blocks, t₃, hblocks, h⟩ := exists_of_run_bind h
  obtain ⟨records, t₄, hrecords, h⟩ := exists_of_run_bind h
  rw [run_lift, Prod.mk.injEq] at hrecords
  obtain ⟨hbuilt, rfl⟩ := hrecords
  obtain ⟨_, t₅, hreplace, h⟩ := exists_of_run_bind h
  cases h
  obtain ⟨hload₁, hmembers₁⟩ := (onlyReads_all .function).of_run hfunctions
  obtain ⟨hload₂, hmembers₂⟩ := (onlyReads_query .trait _ _).of_run htraits
  obtain ⟨hload₃, hmembers₃⟩ := (onlyReads_all .implementation).of_run hblocks
  obtain ⟨es, hes, hfilter⟩ := exists_stored_of_run_query htraits
  refine ⟨functions, traits, blocks, records, t₃, (hload₁.trans hload₂).trans hload₃,
    (hmembers₃.trans hmembers₂).trans hmembers₁, stored_of_run_all hfunctions, ⟨es, ?_, ?_⟩, ?_,
    hbuilt, hreplace⟩
  · rw [← hload₁.stored_eq, hes]
  · intro e he
    rw [hfilter] at he
    apply (List.mem_filter.1 he).1
  · rw [← (hload₁.trans hload₂).stored_eq, stored_of_run_all hblocks]

/-- The walk of a scan. -/
def State.walk (s : State) : Except Files.Refusal Walk :=
  Files.walk s.store.disk s.settings.program.folder s.settings.scan.extensions
    s.settings.scan.maxMegabytes

/-- The session as a scan begins it, with some sources that were read since. -/
def State.anew (s : State) (sources : List (String × List (List Char))) : State :=
  { s with sources := sources, members := none, parsed := 0 }

/-- A scan walks the files, finds out about the program, and goes on with what it found. -/
theorem run_scan (s : State) :
  run scan s
    = run (lift (s.walk.mapError .refused) >>= fun found => program found.files >>= fun known =>
        scanFound found known s.settings.scan.kinds) (s.anew [])
  := by
  rw [scan, forget, run_modify_bind, run_get_bind]
  rfl

/-- The stages of a scan: it fails while it only reads, or it goes on with what it found. -/
theorem scan_cases {s s' : State} {r : Except Failure Summary} (h : run scan s = (r, s')) :
  (∃ failure, r = .error failure ∧ Loads s.store s'.store ∧
    ∀ found, s.walk = .ok found → answer (program found.files) (s.anew []) = .error failure) ∨
  ∃ found known sources, s.walk = .ok found ∧
    run (program found.files) (s.anew []) = (.ok known, s.anew sources) ∧
    run (scanFound found known s.settings.scan.kinds) (s.anew sources) = (r, s')
  := by
  rw [run_scan] at h
  cases hwalk : s.walk with
  | error refusal =>
    left
    rw [hwalk] at h
    cases h
    exact ⟨_, rfl, Loads.refl s.store, fun _ hfound => by cases hfound⟩
  | ok found =>
    rw [hwalk] at h
    have hloads := onlyReads_program found.files (s.anew [])
    cases hprogram : run (program found.files) (s.anew []) with
    | mk r' t =>
      rw [after, hprogram] at hloads
      cases r' with
      | error failure =>
        left
        change run (program found.files >>= _) (s.anew []) = (r, s') at h
        rw [run_bind_error hprogram] at h
        cases h
        refine ⟨failure, rfl, hloads.1, ?_⟩
        rintro _ ⟨⟩
        rw [answer, hprogram]
      | ok known =>
        right
        change run (program found.files >>= _) (s.anew []) = (r, s') at h
        rw [run_bind_ok hprogram] at h
        obtain ⟨sources, rfl, -⟩ := of_run_program hprogram
        exact ⟨found, known, sources, rfl, hprogram, h⟩

end AnchorIndex.Session
