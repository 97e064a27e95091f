import AnchorIndex.Proofs.Session.Rebuilding
import AnchorIndex.Session.Resolve

/-!
# Operations that leave the entities alone

Resolving calls leaves the stored entities and their documents as they are, whatever records there
are and however it ends (`spares_resolve`), and so do all parts of a scan but for storing what was
found. So of a scan that fails as of one that succeeds either nothing was stored, or all that it
found (`recorded_after_scan`).
-/

namespace AnchorIndex.Session

open Effect Relation
open Files (SourceFile)
open Store (Recalls Recorded)

variable {α β : Type}

/-- The operation leaves the stored entities as they are. -/
def Spares (x : Action α) : Prop :=
  ∀ t es, Recorded t.store es → Recorded (after x t).store es

theorem OnlyReads.spares {x : Action α} (h : OnlyReads x) :
  Spares x
  := fun t _ ht => ht.load (h t).1

theorem Spares.of_run {x : Action α} (hx : Spares x) {t t' : State} {es : Kind → List Entity}
    {r : Except Failure α} (h : Recorded t.store es) (hrun : run x t = (r, t')) :
  Recorded t'.store es
  := by
  have hafter := hx t es h
  rwa [after, hrun] at hafter

theorem Spares.bind {x : Action α} {f : α → Action β} (hx : Spares x) (hf : ∀ a, Spares (f a)) :
  Spares (x >>= f)
  := by
  intro t es ht
  rw [after, run_bind]
  cases hrun : run x t with
  | mk r t' =>
    have hafter := hx.of_run ht hrun
    cases r with
    | ok a => exact hf a t' es hafter
    | error failure => exact hafter

theorem spares_pure (a : α) :
  Spares (pure a)
  := (onlyReads_pure a).spares

theorem spares_get_bind {f : State → Action β} (hf : ∀ t, Spares (f t)) :
  Spares (get >>= f)
  := by
  intro t es ht
  rw [after, run_get_bind]
  apply hf t t es ht

/-- What the session remembers may change. -/
theorem spares_modify_bind {f : State → State} {x : PUnit → Action β}
    (hf : ∀ t, (f t).store = t.store) (hx : Spares (x ⟨⟩)) :
  Spares (modify f >>= x)
  := by
  intro t es ht
  rw [after, run_modify_bind]
  apply hx (f t) es
  rwa [hf]

theorem spares_onStore {x : Store.Action α}
    (hx : ∀ s es, Recorded s es → Recorded (Store.Effect.after x s) es) :
  Spares (onStore x)
  := fun t es ht => hx t.store es ht

theorem spares_of_recalls {x : Store.Action α}
    (hx : ∀ s : Store.State, s.Indexed → ReflTransGen Recalls s (Store.Effect.after x s)) :
  Spares (onStore x)
  := spares_onStore fun s _ hs => hs.recalls (hx s hs.identified.indexed)

/-! ### Resolving -/

theorem spares_read (id : String) :
  Spares (onStore (Store.read id))
  := spares_of_recalls fun _ hs => Store.recalls_read hs id

theorem spares_dependency? (id : String) :
  Spares (onStore (Store.dependency? id))
  := by
  apply spares_of_recalls
  intro s _
  rw [Store.dependency?, Store.Effect.after_bind_eq fun _ _ => rfl]
  apply Store.recalls_dependencyIndex

theorem spares_implementations :
  Spares (onStore Store.implementations)
  := by
  apply spares_of_recalls
  intro s _
  rw [Store.implementations, Store.Effect.after_bind_eq fun _ _ => rfl]
  apply Store.recalls_implementationIndex

theorem spares_putDependencies (rs : List CallGraph.Record) :
  Spares (onStore (Store.putDependencies rs))
  := by
  apply spares_onStore
  intro s es hs
  have hconsult := hs.recalls Store.recalls_dependencyIndex
  rw [Store.putDependencies_eq, Store.Effect.after, Store.Effect.run_bind]
  rw [Store.dependencyIndex_eq, Store.Effect.after] at hconsult
  cases hrun : Store.Effect.run Store.dependencyShelf.consult s with
  | mk r s₁ =>
    rw [hrun] at hconsult
    cases r with
    | error failure => exact hconsult
    | ok index =>
      obtain ⟨s', hfile, hfiled⟩ := Store.dependencyShelf.run_file hconsult.identified.usable
        (Store.dependencyShelf.put rs index)
        (Store.orderedDependencies (Store.dependencyShelf.put rs index))
      dsimp only
      rw [hfile]
      exact hconsult.aside hfiled.aside

theorem spares_content (e : Entity) :
  Spares (content e)
  := by
  apply (onlyReads_sourceLines e.path).spares.bind
  intro lines
  apply spares_pure

theorem spares_membersOf (r : Implementation.Record) (ids : List String) :
  Spares (membersOf r ids)
  := by
  induction ids with
  | nil => exact spares_pure []
  | cons id ids ih =>
    apply (spares_read id).bind
    intro e
    apply ih.bind
    intro ms
    apply spares_pure

theorem spares_membersOfAll (rs : List Implementation.Record) :
  Spares (membersOfAll rs)
  := by
  induction rs with
  | nil => exact spares_pure []
  | cons r rs ih =>
    have hhere : Spares (if r.isExternal then pure [] else membersOf r r.memberIds) := by
      split
      · apply spares_pure
      · apply spares_membersOf
    rw [membersOfAll_cons]
    apply hhere.bind
    intro here
    apply ih.bind
    intro rest
    apply spares_pure

theorem spares_members :
  Spares members
  := by
  apply spares_get_bind
  intro t
  split
  · apply spares_pure
  · apply spares_implementations.bind
    intro rs
    apply (spares_membersOfAll rs).bind
    intro ms
    apply spares_modify_bind
    · intro t'
      rfl
    · apply spares_pure

theorem spares_lookUpNames (names : List String) :
  Spares (lookUpNames names)
  := by
  induction names with
  | nil => exact spares_pure ([], [])
  | cons name names ih =>
    apply (onlyReads_query _ _ _).spares.bind
    intro found
    apply ih.bind
    intro p
    dsimp only
    split
    · apply spares_pure
    · apply spares_pure

theorem spares_compute (e : Entity) :
  Spares (compute e)
  := by
  apply spares_modify_bind
  · intro t
    rfl
  apply (spares_content e).bind
  intro text
  apply spares_members.bind
  intro ms
  apply (spares_lookUpNames _).bind
  intro p
  apply spares_pure

theorem spares_enqueue (visited ids : List String) :
  Spares (enqueue visited ids)
  := by
  induction ids generalizing visited with
  | nil => exact spares_pure (visited, [])
  | cons id ids ih =>
    rw [enqueue]
    split
    · apply ih
    · apply (spares_dependency? id).bind
      intro r?
      split
      · apply ih
      · apply (spares_read id).bind
        intro e
        apply (ih _).bind
        intro p
        apply spares_pure

theorem spares_computeAll (rounds : Nat) (visited : List String) (waiting : List Entity) :
  Spares (computeAll rounds visited waiting)
  := by
  induction rounds generalizing visited waiting with
  | zero => exact spares_pure []
  | succ rounds ih =>
    cases waiting with
    | nil => exact spares_pure []
    | cons e waiting =>
      apply (spares_compute e).bind
      intro record
      apply (spares_enqueue visited record.internal).bind
      intro p
      apply (ih _ _).bind
      intro rs
      apply spares_pure

/-- Resolving a call leaves the stored entities as they are. -/
theorem spares_resolve (id : String) :
  Spares (resolve id)
  := by
  apply (spares_dependency? id).bind
  intro r?
  split
  · apply spares_pure
  · apply (spares_read id).bind
    intro root
    apply (spares_of_recalls fun _ hs => Store.recalls_byId hs).bind
    intro index
    apply (spares_computeAll _ _ _).bind
    intro records
    apply (spares_putDependencies records).bind
    intro _
    split
    · apply spares_pure
    · apply (onlyReads_throw _).spares

theorem spares_resolveEach (found : List Entity) :
  Spares (resolveEach found)
  := by
  induction found with
  | nil => exact spares_pure []
  | cons e found ih =>
    apply (spares_resolve e.id).bind
    intro record
    apply ih.bind
    intro rs
    apply spares_pure

theorem spares_resolveNamed (name : String) :
  Spares (resolveNamed name)
  := (onlyReads_query _ _ _).spares.bind spares_resolveEach

theorem spares_resolveAll :
  Spares resolveAll
  := (onlyReads_all _).spares.bind spares_resolveEach

/-! ### Scanning -/

theorem spares_clearDependencies :
  Spares (onStore Store.clearDependencies)
  := by
  apply spares_onStore
  intro s es hs
  obtain ⟨s', hrun, hrecorded, -⟩ := hs.clearDependencies
  rwa [Store.Effect.after, hrun]

theorem spares_replaceImplementations (rs : List Implementation.Record) :
  Spares (onStore (Store.replaceImplementations rs))
  := by
  apply spares_onStore
  intro s es hs
  obtain ⟨s', hrun, hfiled⟩ := Store.implementationShelf.run_replace hs.identified.usable
    (rs.mergeSort (Store.orderedBy (·.name) (·.entityId)))
  rw [Store.replaceImplementations_eq, Store.Effect.after, hrun]
  exact hs.aside hfiled.aside

theorem spares_replaceAccounts (rs : List Account.Record) :
  Spares (onStore (Store.replaceAccounts rs))
  := by
  apply spares_onStore
  intro s es hs
  obtain ⟨s', hrun, hfiled⟩ := Store.accountsShelf.run_replace hs.identified.usable
    (rs.mergeSort (Store.orderedBy (·.name) (·.structId)))
  rw [Store.replaceAccounts_eq, Store.Effect.after, hrun]
  exact hs.aside hfiled.aside

theorem spares_rebuildImplementations :
  Spares rebuildImplementations
  := by
  apply (onlyReads_all .function).spares.bind
  intro functions
  apply (onlyReads_query _ _ _).spares.bind
  intro traits
  apply (onlyReads_all .implementation).spares.bind
  intro blocks
  apply (onlyReads_lift _).spares.bind
  intro records
  apply (spares_replaceImplementations records).bind
  intro _
  apply spares_pure

theorem spares_rebuildAccounts (files : List SourceFile) :
  Spares (rebuildAccounts files)
  := by
  apply (onlyReads_query _ _ _).spares.bind
  intro structs
  apply (onlyReads_accountsRecordsOf files structs).spares.bind
  intro records
  apply (spares_replaceAccounts records).bind
  intro _
  apply spares_pure

/-- After a scan, whether it succeeds or fails, the entities are as they were, or what it found has
taken their place. -/
theorem recorded_after_scan {t t' : State} {es : Kind → List Entity} {r : Except Failure Summary}
    (h : Recorded t.store es) (hrun : run scan t = (r, t')) :
  Recorded t'.store es ∨ ∃ found known, t.walk = .ok found ∧
    Recorded t'.store (rescanned (scanKinds found.files known t.settings.scan.kinds)
      t.settings.scan.kinds t.store.mint es)
  := by
  obtain ⟨_, -, hloads, -⟩ | ⟨found, known, sources, hwalk, -, hrun⟩ := scan_cases hrun
  · exact .inl (h.load hloads)
  · right
    refine ⟨found, known, hwalk, ?_⟩
    obtain ⟨store, hstored, hrecorded⟩ :=
      run_storeScanned_scanKinds (t := t.anew sources) found.files known t.settings.scan.kinds h
    rw [scanFound, run_bind_ok hstored] at hrun
    refine Spares.of_run ?_ (t := { t.anew sources with store := store }) hrecorded hrun
    apply spares_clearDependencies.bind
    intro _
    apply spares_rebuildImplementations.bind
    intro implementations
    apply (spares_rebuildAccounts found.files).bind
    intro accountStructs
    apply spares_pure

end AnchorIndex.Session
