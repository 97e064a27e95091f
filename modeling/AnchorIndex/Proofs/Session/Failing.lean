import AnchorIndex.Proofs.Session.Found
import AnchorIndex.Proofs.Session.Stages
import AnchorIndex.Proofs.Store.Documents

/-!
# Scans that fail

A scan writes the documents of entities in the order of the configured kinds, then that of
dependencies, then those of implementations and accounts structs. It takes nothing back: a scan
that fails leaves some first ones of these documents rewritten and the others as they were
(`documents_of_failing_scan`). What is said of parts of a scan (`Rewrites`) is put together in the
order in which they are carried out (`Rewrites.bind`).
-/

namespace AnchorIndex.Session

open Effect
open Document (Record Schema encode)
open Files (SourceFile Walk)
open Store (IsListed Rewritten entityRecord entitySchema dependencySchema implementationSchema
  accountsSchema)

variable {α β : Type}

/-! ### Parts that write documents -/

/-- From a ready store, the operation rewrites documents in this order, all of them if it succeeds,
and some first ones of `within` if it fails. -/
structure Rewrites (written : Schema → List Record → Prop) (within order : List Schema)
    (x : Action α) : Prop where
  succeeds : ∀ {place s s' a}, s.store.ReadyAt place → run x s = (.ok a, s') →
    Rewritten place written order s.store s'.store
  fails : ∀ {place s s' failure}, s.store.ReadyAt place → run x s = (.error failure, s') →
    ∃ done, done <+: within ∧ Rewritten place written done s.store s'.store

section

variable {written : Schema → List Record → Prop} {within order within' order' : List Schema}

theorem OnlyReads.rewrites {x : Action α} (h : OnlyReads x) :
  Rewrites written [] [] x
  := by
  have hnone : ∀ place s, s.store.ReadyAt place →
      Rewritten place written [] s.store (after x s).store := by
    intro place s hs
    apply (Rewritten.refl written hs).congr rfl rfl (h s).1.disk (h s).1.folder
  constructor
  · intro place s s' a hs hrun
    have hrewritten := hnone place s hs
    rwa [after, hrun] at hrewritten
  · intro place s s' failure hs hrun
    have hrewritten := hnone place s hs
    rw [after, hrun] at hrewritten
    exact ⟨[], List.nil_prefix, hrewritten⟩

/-- What one operation rewrites is followed by what the next one rewrites. -/
theorem Rewrites.bind {x : Action α} {f : α → Action β} (hx : Rewrites written within order x)
    (hwithin : within <+: order) (hf : ∀ a, Rewrites written within' order' (f a)) :
  Rewrites written (order ++ within') (order ++ order') (x >>= f)
  := by
  constructor
  · intro place s s' b hs hrun
    obtain ⟨a, s₁, hrun₁, hrun₂⟩ := exists_of_run_bind hrun
    have hfirst := hx.succeeds hs hrun₁
    apply hfirst.trans ((hf a).succeeds hfirst.ready hrun₂)
  · intro place s s' failure hs hrun
    rw [run_bind] at hrun
    cases hrun₁ : run x s with
    | mk r s₁ =>
      rw [hrun₁] at hrun
      cases r with
      | error failure' =>
        cases hrun
        obtain ⟨done, hdone, hrewritten⟩ := hx.fails hs hrun₁
        exact ⟨done, (hdone.trans hwithin).trans (List.prefix_append _ _), hrewritten⟩
      | ok a =>
        have hfirst := hx.succeeds hs hrun₁
        obtain ⟨done, hdone, hrewritten⟩ := (hf a).fails hfirst.ready hrun
        exact ⟨order ++ done, (List.prefix_append_right_inj order).2 hdone,
          hfirst.trans hrewritten⟩

/-- What follows an operation may only tell its result. -/
theorem Rewrites.bind_pure {x : Action α} (hx : Rewrites written within order x) (g : α → β) :
  Rewrites written within order (x >>= fun a => pure (g a))
  := by
  constructor
  · intro place s s' b hs hrun
    obtain ⟨a, s₁, hrun₁, hrun₂⟩ := exists_of_run_bind hrun
    cases hrun₂
    apply hx.succeeds hs hrun₁
  · intro place s s' failure hs hrun
    rw [run_bind] at hrun
    cases hrun₁ : run x s with
    | mk r s₁ =>
      rw [hrun₁] at hrun
      cases r with
      | ok a => cases hrun
      | error failure' =>
        cases hrun
        apply hx.fails hs hrun₁

/-- A failure that is known beforehand keeps an operation from writing. -/
theorem Rewrites.lift_bind {r : Except Failure α} {f : α → Action β}
    (hf : ∀ a, r = .ok a → Rewrites written within order (f a)) :
  Rewrites written within order (lift r >>= f)
  := by
  cases r with
  | ok a => exact hf a rfl
  | error failure =>
    have hrun : ∀ s, run (lift (.error failure) >>= f) s = (.error failure, s) := fun _ => rfl
    constructor
    · intro place s s' b hs h
      rw [hrun] at h
      cases h
    · intro place s s' failure' hs h
      rw [hrun] at h
      cases h
      exact ⟨[], List.nil_prefix, Rewritten.refl written hs⟩

/-- An operation of the store that fails without a trace or rewrites documents does so in a
session. -/
theorem rewrites_onStore {x : Store.Action α}
    (h : ∀ place s, s.ReadyAt place → (∃ failure, Store.Effect.run x s = (.error failure, s)) ∨
      ∃ a s', Store.Effect.run x s = (.ok a, s') ∧ Rewritten place written order s s') :
  Rewrites written [] order (onStore x)
  := by
  constructor
  · intro place s s' a hs hrun
    obtain ⟨store, hstore, rfl⟩ := exists_of_run_onStore hrun
    obtain ⟨failure, hfail⟩ | ⟨a', store', hok, hrewritten⟩ := h place s.store hs
    · rw [hfail] at hstore
      cases hstore
    · rw [hok] at hstore
      cases hstore
      exact hrewritten
  · intro place s s' failure hs hrun
    obtain ⟨failure', hfail⟩ | ⟨a', store', hok, -⟩ := h place s.store hs
    · rw [run_onStore_eq hfail] at hrun
      cases hrun
      exact ⟨[], List.nil_prefix, Rewritten.refl written hs⟩
    · rw [run_onStore_eq hok] at hrun
      cases hrun

end

/-! ### Parts of a scan -/

/-- What a scan writes into its documents. The entities are those that were found, with identities
and in order; there are no dependencies; and implementations are built from blocks, functions and
traits. -/
inductive ScanWrites (scanned : Scanned) : Schema → List Record → Prop where
  | entities {kind : Kind} {es : List Entity} (hlisted : IsListed es)
      (hfound : (es.map (·.withId "")).Perm (scanned.ofKind kind)) :
      ScanWrites scanned (entitySchema kind) (es.map entityRecord)
  | dependencies : ScanWrites scanned dependencySchema []
  | implementations {blocks functions traits : List Entity}
      {records : List Implementation.Record}
      (hbuilt : blocks.mapM (Implementation.Record.buildChecked · functions
        (definitionsByName traits)) = .ok records) :
      ScanWrites scanned implementationSchema
        ((records.mergeSort (Store.orderedBy (·.name) (·.entityId))).map
          Store.implementationRecord)
  | accounts {records : List Account.Record} :
      ScanWrites scanned accountsSchema (records.map Store.accountsRecord)

section

variable {scanned : Scanned}

theorem rewrites_storeScanned
    (hscanned : ∀ kind, ∀ e ∈ scanned.ofKind kind, e.kind = kind ∧ e.id = "")
    (kinds : List Kind) :
  Rewrites (ScanWrites scanned) (kinds.map entitySchema) (kinds.map entitySchema)
    (storeScanned scanned kinds)
  := by
  induction kinds with
  | nil => exact (onlyReads_pure ()).rewrites
  | cons kind kinds ih =>
    have hnoIds : (scanned.ofKind kind).map (·.withId "") = scanned.ofKind kind :=
      map_withId_eq_self fun e he => (hscanned kind e he).2
    have hreplace : Rewrites (ScanWrites scanned) [] [entitySchema kind]
        (onStore (Store.replaceAll kind (scanned.ofKind kind))) := by
      apply rewrites_onStore
      intro place s hs
      apply Store.rewritten_replaceAll hs fun e he => (hscanned kind e he).1
      intro es hlisted hperm
      rw [hnoIds] at hperm
      exact .entities hlisted hperm
    exact hreplace.bind List.nil_prefix fun _ => ih

theorem rewrites_clearDependencies :
  Rewrites (ScanWrites scanned) [] [dependencySchema] (onStore Store.clearDependencies)
  := by
  apply rewrites_onStore
  intro place s hs
  right
  obtain ⟨s', hrun, hrewritten⟩ :=
    Store.rewritten_file (ScanWrites scanned) Store.dependencyShelf hs [] [] .dependencies
  exact ⟨(), s', hrun, hrewritten⟩

theorem rewrites_rebuildImplementations :
  Rewrites (ScanWrites scanned) [] [implementationSchema] rebuildImplementations
  := by
  apply (onlyReads_all .function).rewrites.bind List.nil_prefix
  intro functions
  apply (onlyReads_query .trait none (some .traitDefinition)).rewrites.bind List.nil_prefix
  intro traits
  apply (onlyReads_all .implementation).rewrites.bind List.nil_prefix
  intro blocks
  apply Rewrites.lift_bind
  intro records hrecords
  apply Rewrites.bind_pure
  apply rewrites_onStore
  intro place s hs
  right
  obtain ⟨s', hrun, hrewritten⟩ :=
    Store.rewritten_replace (ScanWrites scanned) Store.implementationShelf hs
      (.implementations hrecords)
  exact ⟨(), s', hrun, hrewritten⟩

theorem rewrites_rebuildAccounts (files : List SourceFile) :
  Rewrites (ScanWrites scanned) [] [accountsSchema] (rebuildAccounts files)
  := by
  apply (onlyReads_query .struct none (some .contextAccounts)).rewrites.bind List.nil_prefix
  intro structs
  apply (onlyReads_accountsRecordsOf files structs).rewrites.bind List.nil_prefix
  intro records
  apply Rewrites.bind_pure
  apply rewrites_onStore
  intro place s hs
  right
  obtain ⟨s', hrun, hrewritten⟩ :=
    Store.rewritten_replace (ScanWrites scanned) Store.accountsShelf hs .accounts
  exact ⟨(), s', hrun, hrewritten⟩

end

/-! ### Scans -/

/-- The documents that a scan writes before that of accounts structs, in order. -/
def writeOrder (kinds : List Kind) : List Schema :=
  kinds.map entitySchema ++ [dependencySchema, implementationSchema]

theorem rewrites_scanFound (found : Walk) (known : Program) (kinds : List Kind) :
  Rewrites (ScanWrites (scanKinds found.files known kinds)) (writeOrder kinds)
    (writeOrder kinds ++ [accountsSchema]) (scanFound found known kinds)
  := by
  have hscanned : ∀ kind, ∀ e ∈ (scanKinds found.files known kinds).ofKind kind,
      e.kind = kind ∧ e.id = "" :=
    fun kind e he => kind_and_id_of_mem_scanKinds he
  have hstored := rewrites_storeScanned hscanned kinds
  rw [writeOrder, List.append_assoc]
  apply hstored.bind List.prefix_rfl
  intro _
  apply rewrites_clearDependencies.bind List.nil_prefix
  intro _
  apply rewrites_rebuildImplementations.bind List.nil_prefix
  intro implementations
  apply (rewrites_rebuildAccounts found.files).bind_pure

/-- Where the stored entities of the first kind cannot be read, nothing is stored. -/
theorem run_scanFound_of_error {found : Walk} {known : Program} {kinds : List Kind} {kind : Kind}
    (hkind : kinds.head? = some kind) {s : State} {failure : Failure}
    (h : s.store.stored kind = .error failure) :
  run (scanFound found known kinds) s = (.error failure, s)
  := by
  obtain ⟨rest, rfl⟩ := List.head?_eq_some_iff.1 hkind
  have hstore : ∀ scanned, run (storeScanned scanned (kind :: rest)) s = (.error failure, s) := by
    intro scanned
    rw [storeScanned, run_bind_error (run_onStore_eq (Store.run_replaceAll_of_error h _))]
  rw [scanFound, run_bind_error (hstore _)]

/-- A session whose document of structs is no document. -/
def junkSession : State :=
  State.start
    ⟨"/", .folder [("m", .folder [("structs.md", .file (.text "junk\n"))]),
      ("programs", .folder [("lib.rs", .file (.text "fn a() \x7b\x7d\n"))])]⟩
    (.after 0) { Settings.standard with metadata := ⟨"m"⟩ }

/-- There is a text at the path of a document. -/
def HasText (s : Store.State) (schema : Schema) : Prop :=
  ∃ text, s.document schema = .ok (some (.file (.text text)))

/-- A check of whether there is a text. -/
def hasText (s : Store.State) (schema : Schema) : Bool :=
  match s.document schema with
  | .ok (some (.file (.text _))) => true
  | _ => false

theorem hasText_iff {s : Store.State} {schema : Schema} :
  hasText s schema = true ↔ HasText s schema
  := by
  rw [hasText, HasText]
  constructor
  · intro h
    split at h
    next text heq => exact ⟨text, heq⟩
    · contradiction
  · rintro ⟨text, heq⟩
    rw [heq]

instance (s : Store.State) (schema : Schema) : Decidable (HasText s schema) :=
  decidable_of_iff _ hasText_iff

/-- The scan of this session fails. -/
theorem exists_failure_junkSession :
  ∃ failure, run scan junkSession = (.error failure, after scan junkSession)
  := by
  have hfails : (answer scan junkSession).toOption.isSome = false := by decide +kernel
  cases h : answer scan junkSession with
  | error failure => exact ⟨failure, run_of_answer h⟩
  | ok summary =>
    rw [h] at hfails
    contradiction

theorem ready_junkSession :
  junkSession.store.Ready
  := by
  apply Store.State.ready_of_isHosted
  decide +kernel

end AnchorIndex.Session
