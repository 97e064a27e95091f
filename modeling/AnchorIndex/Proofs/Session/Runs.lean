import AnchorIndex.Proofs.Session.Rebuilding
import AnchorIndex.Proofs.Session.Resolving
import AnchorIndex.Proofs.Session.Upholding

/-!
# Runs of a session

A run of a session is a sequence of steps (`Step`): sources are edited, the session is opened
again, the workspace is scanned, and calls are resolved. From a fresh store, if all scans succeed,
every step leaves the session intact (`intact_of_run`): whatever records refer to is stored
(`links_of_run`).
-/

namespace AnchorIndex.Session

open Effect Relation
open Store (AccountLinks DependencyLinks ImplementationLinks)

/-! ### Steps -/

/-- A step of a session. An edit leaves the documents alone, a session is opened again on the same
documents, and of scans only some are allowed, depending on the state and the result. -/
inductive Step (allowed : State → Except Failure Summary → Prop) (s : State) : State → Prop
  | edit (disk : Files.Disk) (husable : (s.store.withDisk disk).Usable)
      (hrecords : ∀ schema ∈ Store.schemas,
        (s.store.withDisk disk).records schema = s.store.records schema) :
      Step allowed s { s with store := s.store.withDisk disk }
  | reopen (settings : Settings) (hfolder : settings.metadataPath s.store.disk = s.store.folder) :
      Step allowed s (State.start s.store.disk s.store.mint settings)
  | scan {r : Except Failure Summary} {s' : State} (hallowed : allowed s r)
      (hrun : run scan s = (r, s')) : Step allowed s s'
  | resolve (id : String) : Step allowed s (after (resolve id) s)
  | resolveNamed (name : String) : Step allowed s (after (resolveNamed name) s)
  | resolveAll : Step allowed s (after resolveAll s)

/-- A run of a session. -/
abbrev Run (allowed : State → Except Failure Summary → Prop) : State → State → Prop :=
  ReflTransGen (Step allowed)

/-- Scans have to succeed. -/
def Succeeds (_ : State) (r : Except Failure Summary) : Prop :=
  ∃ summary, r = .ok summary

section

variable {s s' : State} {es : Kind → List Entity}

/-- A session that is opened again has the same documents. -/
theorem store_start {settings : Settings}
    (h : settings.metadataPath s.store.disk = s.store.folder) :
  (State.start s.store.disk s.store.mint settings).store = s.store.reopened
  := by
  rw [State.start, Store.State.reopened, h]

theorem recorded_edit {disk : Files.Disk} (h : Store.Recorded s.store es)
    (husable : (s.store.withDisk disk).Usable)
    (hrecords : ∀ schema ∈ Store.schemas,
      (s.store.withDisk disk).records schema = s.store.records schema) :
  Store.Recorded (s.store.withDisk disk) es
  := by
  have hdocumented : ∀ kind,
      (s.store.withDisk disk).documented kind = s.store.documented kind := by
    intro kind
    rw [Store.State.documented_eq, Store.State.documented_eq,
      hrecords _ (Store.entitySchema_mem_schemas kind)]
  have hstored : ∀ kind, (s.store.withDisk disk).stored kind = s.store.stored kind := by
    intro kind
    rw [Store.State.stored, Store.State.stored, hdocumented]
    rfl
  apply h.congr husable rfl _ hstored hdocumented
  intro index hindex
  rw [Store.State.index_congr hstored]
  apply h.identified.indexed index hindex

/-- A step leaves a session intact, if scans succeed. -/
theorem Intact.step (h : Intact s es) (hstep : Step Succeeds s s') :
  ∃ es', Intact s' es'
  := by
  cases hstep with
  | edit disk husable hrecords =>
    use es, h.linked.congr (recorded_edit h.linked.recorded husable hrecords) hrecords rfl rfl rfl
    exact h.members
  | reopen settings hfolder =>
    have hlinked := h.linked.reopened
    rw [← store_start hfolder] at hlinked
    refine ⟨_, hlinked, ?_⟩
    rintro _ ⟨⟩
  | scan hallowed hrun =>
    obtain ⟨summary, rfl⟩ := hallowed
    obtain ⟨found, known, -, -, hlinked, hmembers⟩ := linked_of_scan h.linked.recorded hrun
    refine ⟨_, hlinked, ?_⟩
    rw [hmembers]
    rintro _ ⟨⟩
  | resolve id => exact ⟨es, (upholds_resolve id s h).1⟩
  | resolveNamed name => exact ⟨es, (upholds_resolveNamed name s h).1⟩
  | resolveAll => exact ⟨es, (upholds_resolveAll s h).1⟩

/-- Every run from a fresh store leaves the session intact, if scans succeed. -/
theorem intact_of_run (hfresh : s.store.IsFresh) (hlawful : s.store.mint.IsLawful)
    (hmembers : s.members = none) (hrun : Run Succeeds s s') :
  ∃ es, Intact s' es
  := by
  induction hrun with
  | refl =>
    refine ⟨_, hfresh.linked hlawful, ?_⟩
    rw [hmembers]
    rintro _ ⟨⟩
  | tail _ hstep ih =>
    obtain ⟨es, hes⟩ := ih
    apply hes.step hstep

end

/-! ### What records refer to -/

/-- After every run from a fresh store in which scans succeed, the records refer to what is stored.
The functions of dependency records are stored, and the names of foreign functions are not those
of stored ones. There is one implementation record for each stored implementation, whose members
are stored functions and whose definition is a stored trait, and one accounts record for each
stored struct that lists accounts. So for a stored function nothing is missing when it is
resolved. -/
theorem links_of_run {s t : State} (hfresh : s.store.IsFresh)
    (hlawful : s.store.mint.IsLawful) (hmembers : s.members = none) (hrun : Run Succeeds s t) :
  ∃ (es : Kind → List Entity) (dependencies : List CallGraph.Record)
    (implementations : List Implementation.Record) (accounts : List Account.Record),
    (∀ kind, answer (onStore (Store.all kind)) t = .ok (es kind))
    ∧ answer (onStore Store.dependencies) t = .ok dependencies
    ∧ answer (onStore Store.implementations) t = .ok implementations
    ∧ answer (onStore Store.accountsRecords) t = .ok accounts
    ∧ (∀ kind, ((es kind).map (·.id)).Nodup)
    ∧ (∀ r ∈ dependencies, DependencyLinks es r)
    ∧ ImplementationLinks es implementations
    ∧ AccountLinks es accounts
    ∧ ∀ e ∈ es .function, ∀ id place,
        answer (resolve e.id) t ≠ .error (.fault (.entityMissing id place))
  := by
  obtain ⟨es, hes⟩ := intact_of_run hfresh hlawful hmembers hrun
  obtain ⟨dependencies, hdependencies, hdependencyLinks⟩ := hes.linked.answer_dependencies
  obtain ⟨implementations, himplementations, himplementationLinks⟩ :=
    hes.linked.answer_implementations
  obtain ⟨accounts, haccounts, haccountLinks⟩ := hes.linked.answer_accountsRecords
  refine ⟨es, dependencies, implementations, accounts, answer_all hes.linked.recorded,
    hdependencies, himplementations, haccounts, hes.linked.recorded.identified.nodup,
    hdependencyLinks, himplementationLinks, haccountLinks, ?_⟩
  intro e he id place hmissing
  have hfails := (upholds_resolve e.id t hes).2
  rw [hmissing] at hfails
  exact hfails ⟨.function, List.mem_map_of_mem he⟩ id place rfl

/-- The session that resolves a method that calls itself, after a scan. -/
def selfCallResolved : State :=
  after (resolve selfCallId) (after scan (selfCallSession [] "m"))

theorem isFresh_selfCallSession :
  (selfCallSession [] "m").store.IsFresh
  := by
  apply Store.State.isFresh_of_isHosted
  · decide +kernel
  · rfl
  · decide +kernel

theorem run_selfCallResolved :
  Run Succeeds (selfCallSession [] "m") selfCallResolved
  := by
  have hscan : (answer scan (selfCallSession [] "m")).toOption.isSome = true := by
    decide +kernel
  obtain ⟨summary, hrun⟩ := exists_run_of_isSome hscan
  apply ReflTransGen.tail (.single (.scan ⟨summary, rfl⟩ hrun))
  apply Step.resolve

theorem links_of_run_selfCall :
  let s := selfCallSession [] "m"
  s.store.IsFresh ∧ s.store.mint.IsLawful ∧ s.members = none ∧ Run Succeeds s selfCallResolved
  ∧ ∃ es dependencies implementations,
    (∀ kind, answer (onStore (Store.all kind)) selfCallResolved = .ok (es kind))
    ∧ answer (onStore Store.dependencies) selfCallResolved = .ok dependencies
    ∧ answer (onStore Store.implementations) selfCallResolved = .ok implementations
    ∧ (∀ r ∈ dependencies, DependencyLinks es r) ∧ ImplementationLinks es implementations
    ∧ dependencies.map (fun r => (r.internal, r.external)) = [([selfCallId], ["b"])]
    ∧ implementations.map (·.memberIds) = [[selfCallId]]
  := by
  intro s
  have hlawful : s.store.mint.IsLawful := Store.Mint.isLawful_after 0
  have hfacts : (answer (onStore Store.dependencies) selfCallResolved).toOption.map
        (·.map fun r => (r.internal, r.external)) = some [([selfCallId], ["b"])]
      ∧ (answer (onStore Store.implementations) selfCallResolved).toOption.map
        (·.map (·.memberIds)) = some [[selfCallId]] := by
    decide +kernel
  obtain ⟨es, dependencies, implementations, accounts, hall, hdependencies, himplementations, -, -,
    hdependencyLinks, himplementationLinks, -, -⟩ :=
    links_of_run isFresh_selfCallSession hlawful rfl run_selfCallResolved
  refine ⟨isFresh_selfCallSession, hlawful, rfl, run_selfCallResolved, es, dependencies,
    implementations, hall, hdependencies, himplementations, hdependencyLinks,
    himplementationLinks, ?_, ?_⟩
  · have hrecords := hfacts.1
    rw [hdependencies] at hrecords
    apply Option.some.inj hrecords
  · have hrecords := hfacts.2
    rw [himplementations] at hrecords
    apply Option.some.inj hrecords

end AnchorIndex.Session
