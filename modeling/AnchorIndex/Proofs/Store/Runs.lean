import Mathlib.Logic.Relation
import AnchorIndex.Proofs.Store.Finding
import AnchorIndex.Proofs.Store.Records

/-!
# Runs of a store

A run of a store is a sequence of operations, among them that it is opened again
(`Operation`, `State.afterAll`). Whatever an operation does to the state of a usable store is put
together from a few changes (`Change`, `Operation.changes`); reading only recalls what the store
holds (`Recalls`). So what every change preserves holds
after every run (`preserved_afterAll`).
-/

namespace AnchorIndex.Store

open Effect Relation

/-! ### Operations -/

/-- What can be done with a store. An operation that fails is one of a run as well. -/
inductive Operation
  | upsert (kind : Kind) (e : Entity)
  | upsertMany (kind : Kind) (batch : List Entity)
  | replaceAll (kind : Kind) (batch : List Entity)
  | putDependencies (rs : List CallGraph.Record)
  | clearDependencies
  | replaceImplementations (rs : List Implementation.Record)
  | replaceAccounts (rs : List Account.Record)
  | all (kind : Kind)
  | query (kind : Kind) (name : Option String) (role : Option Role)
  | find (id : String)
  | read (id : String)
  | locate (id : String)
  | dependency (ownerId : String)
  | dependencies
  | implementation (id : String)
  | implementations
  | accountsOf (structId : String)
  | accountsRecords
  | reopen

namespace Operation

/-- The state that an operation leaves. -/
def after : Operation → State → State
  | .upsert kind e => Effect.after (Store.upsert kind e)
  | .upsertMany kind batch => Effect.after (Store.upsertMany kind batch)
  | .replaceAll kind batch => Effect.after (Store.replaceAll kind batch)
  | .putDependencies rs => Effect.after (Store.putDependencies rs)
  | .clearDependencies => Effect.after Store.clearDependencies
  | .replaceImplementations rs => Effect.after (Store.replaceImplementations rs)
  | .replaceAccounts rs => Effect.after (Store.replaceAccounts rs)
  | .all kind => Effect.after (Store.all kind)
  | .query kind name role => Effect.after (Store.query kind name role)
  | .find id => Effect.after (find? id)
  | .read id => Effect.after (Store.read id)
  | .locate id => Effect.after (Store.locate id)
  | .dependency ownerId => Effect.after (dependency? ownerId)
  | .dependencies => Effect.after Store.dependencies
  | .implementation id => Effect.after (implementation? id)
  | .implementations => Effect.after Store.implementations
  | .accountsOf structId => Effect.after (accountsOf? structId)
  | .accountsRecords => Effect.after Store.accountsRecords
  | .reopen => State.reopened

/-- The entities that an operation puts into the store. -/
def entitiesIn : Operation → List Entity
  | .upsert _ e => [e]
  | .upsertMany _ batch => batch
  | .replaceAll _ batch => batch
  | _ => []

/-- The dependency records that an operation puts into the store. -/
def dependenciesIn : Operation → List CallGraph.Record
  | .putDependencies rs => rs
  | _ => []

/-- The implementation records that an operation puts into the store. -/
def implementationsIn : Operation → List Implementation.Record
  | .replaceImplementations rs => rs
  | _ => []

/-- The accounts records that an operation puts into the store. -/
def accountsIn : Operation → List Account.Record
  | .replaceAccounts rs => rs
  | _ => []

end Operation

/-- The state after a run. -/
def State.afterAll (s : State) (ops : List Operation) : State :=
  ops.foldl (fun s o => o.after s) s

/-! ### Recalling -/

/-- What reading can do to a state at a time: it remembers more of what the store holds. -/
inductive Recalls (s : State) : State → Prop
  | load {s'} (h : Loads s s') : Recalls s s'
  | index {index} (h : s.index = .ok index) : Recalls s (s.withIndex index)
  | dependencies {rs} (h : dependencyShelf.held s = .ok rs) :
      Recalls s (dependencyShelf.consulted (indexRecords dependencyShelf.key rs) s)
  | implementations {rs} (h : implementationShelf.held s = .ok rs) :
      Recalls s (implementationShelf.consulted (indexRecords implementationShelf.key rs) s)
  | accounts {rs} (h : accountsShelf.held s = .ok rs) :
      Recalls s (accountsShelf.consulted (indexRecords accountsShelf.key rs) s)

section

variable {s : State}

theorem recalls_all (kind : Kind) :
  ReflTransGen Recalls s (Effect.after (all kind) s)
  := by
  rw [Effect.after, run_all]
  exact .single (.load (loads_loading s kind))

theorem recalls_query (kind : Kind) (name : Option String) (role : Option Role) :
  ReflTransGen Recalls s (Effect.after (query kind name role) s)
  := by
  rw [query, after_bind_eq fun _ _ => rfl]
  apply recalls_all kind

theorem recalls_byId (hs : s.Indexed) :
  ReflTransGen Recalls s (Effect.after byId s)
  := by
  obtain ⟨s', hrun, hs' | ⟨s₁, index, hloads, hindex, rfl⟩⟩ := run_byId hs
  · rw [Effect.after, hrun]
    exact .single (.load hs')
  · rw [Effect.after, hrun]
    exact .tail (.single (.load hloads)) (.index hindex)

theorem recalls_find? (hs : s.Indexed) (id : String) :
  ReflTransGen Recalls s (Effect.after (find? id) s)
  := by
  rw [find?, after_bind_eq fun _ _ => rfl]
  apply recalls_byId hs

theorem recalls_read (hs : s.Indexed) (id : String) :
  ReflTransGen Recalls s (Effect.after (read id) s)
  := by
  rw [read, after_bind_eq fun e? _ => by cases e? <;> rfl]
  apply recalls_find? hs id

theorem recalls_consult {α : Type} (shelf : Shelf α)
    (hconsult : ∀ rs, shelf.held s = .ok rs →
      Recalls s (shelf.consulted (indexRecords shelf.key rs) s)) :
  ReflTransGen Recalls s (Effect.after shelf.consult s)
  := by
  obtain ⟨s', hrun, -, rfl | ⟨rs, hrs, rfl⟩⟩ := shelf.run_consult s
  · rw [Effect.after, hrun]
  · rw [Effect.after, hrun]
    exact .single (hconsult rs hrs)

theorem recalls_dependencyIndex :
  ReflTransGen Recalls s (Effect.after dependencyIndex s)
  := by
  rw [dependencyIndex_eq]
  apply recalls_consult
  intro rs hrs
  exact .dependencies hrs

theorem recalls_implementationIndex :
  ReflTransGen Recalls s (Effect.after implementationIndex s)
  := by
  rw [implementationIndex_eq]
  apply recalls_consult
  intro rs hrs
  exact .implementations hrs

theorem recalls_accountsIndex :
  ReflTransGen Recalls s (Effect.after accountsIndex s)
  := by
  rw [accountsIndex_eq]
  apply recalls_consult
  intro rs hrs
  exact .accounts hrs

end

/-! ### Changes -/

/-- What an operation can do at a time to the records of a state. -/
inductive RecordChange (o : Operation) (s : State) : State → Prop
  | consultDependencies {rs} (h : dependencyShelf.held s = .ok rs) :
      RecordChange o s (dependencyShelf.consulted (indexRecords dependencyShelf.key rs) s)
  | consultImplementations {rs} (h : implementationShelf.held s = .ok rs) :
      RecordChange o s (implementationShelf.consulted (indexRecords implementationShelf.key rs) s)
  | consultAccounts {rs} (h : accountsShelf.held s = .ok rs) :
      RecordChange o s (accountsShelf.consulted (indexRecords accountsShelf.key rs) s)
  | putDependencies {s' index} (hindex : s.memory.dependencies = some index)
      (h : dependencyShelf.Filed s s' (dependencyShelf.put o.dependenciesIn index)
        (orderedDependencies (dependencyShelf.put o.dependenciesIn index))) :
      RecordChange o s s'
  | clearDependencies {s'} (h : dependencyShelf.Filed s s' [] []) : RecordChange o s s'
  | replaceImplementations {s' ordered} (hordered : ordered.Perm o.implementationsIn)
      (h : implementationShelf.Filed s s' (indexRecords implementationShelf.key ordered) ordered) :
      RecordChange o s s'
  | replaceAccounts {s' ordered} (hordered : ordered.Perm o.accountsIn)
      (h : accountsShelf.Filed s s' (indexRecords accountsShelf.key ordered) ordered) :
      RecordChange o s s'

/-- What an operation can do to a state at a time. -/
inductive Change (o : Operation) (s : State) : State → Prop
  | load {s'} (h : Loads s s') : Change o s s'
  | index {index} (h : s.index = .ok index) : Change o s (s.withIndex index)
  | put {s' kind current} (manner : Manner) (hcurrent : s.stored kind = .ok current)
      (hkind : ∀ e ∈ o.entitiesIn, e.kind = kind)
      (h : Saved s s' kind
        (listed
          (manner.result current (assigned (knownIds current) (keyed o.entitiesIn) s.mint)))
        (newCount current o.entitiesIn)) :
      Change o s s'
  | record {s'} (h : RecordChange o s s') : Change o s s'
  | reopen (h : o = .reopen) : Change o s s.reopened

/-- A change of records leaves the entities as they are. -/
theorem RecordChange.aside {o : Operation} {s s' : State} (h : RecordChange o s s')
    (hs : s.Usable) :
  Aside s s'
  := by
  cases h with
  | consultDependencies _ => exact Shelf.aside_consulted _ hs _
  | consultImplementations _ => exact Shelf.aside_consulted _ hs _
  | consultAccounts _ => exact Shelf.aside_consulted _ hs _
  | putDependencies _ h => exact h.aside
  | clearDependencies h => exact h.aside
  | replaceImplementations _ h => exact h.aside
  | replaceAccounts _ h => exact h.aside

/-- A usable store stays usable. -/
theorem Change.usable {o : Operation} {s s' : State} (h : Change o s s') (hs : s.Usable) :
  s'.Usable
  := by
  cases h with
  | load h => exact hs.congr h.disk h.folder
  | index _ => exact hs.congr rfl rfl
  | put _ _ _ h => exact h.wrote.usable
  | record h => exact (h.aside hs).usable
  | reopen _ => exact hs.congr rfl rfl

/-- The index of identities stays that of the stored entities. -/
theorem Change.indexed {o : Operation} {s s' : State} (h : Change o s s') (hs : s.Usable)
    (hindexed : s.Indexed) :
  s'.Indexed
  := by
  cases h with
  | load h => exact h.indexed hindexed
  | index h => exact State.indexed_withIndex h
  | put _ _ _ h => exact h.indexed
  | record h => exact (h.aside hs).indexed hindexed
  | reopen _ =>
    intro index hindex
    contradiction

/-- Recalling is a change of every operation. -/
theorem Recalls.change {s s' : State} (h : Recalls s s') (o : Operation) :
  Change o s s'
  := by
  cases h with
  | load h => exact .load h
  | index h => exact .index h
  | dependencies h => exact .record (.consultDependencies h)
  | implementations h => exact .record (.consultImplementations h)
  | accounts h => exact .record (.consultAccounts h)

/-! ### Changes of operations -/

section

variable {o : Operation} {s : State}

theorem changes_put (hs : s.Usable) (manner : Manner) (kind : Kind) :
  ReflTransGen (Change o) s (Effect.after (manner.put kind o.entitiesIn) s)
  := by
  cases hcurrent : s.stored kind with
  | error failure => rw [Effect.after, manner.run_put_of_error hcurrent]
  | ok current =>
    apply ReflTransGen.single
    by_cases hkind : ∀ e ∈ o.entitiesIn, e.kind = kind
    · obtain ⟨s', hrun, hsaved⟩ := manner.run_put hs hcurrent hkind
      rw [Effect.after, hrun]
      exact .put manner hcurrent hkind hsaved
    · obtain ⟨e, -, -, hrun⟩ := manner.run_put_of_foreign hcurrent (by simpa using hkind)
      rw [Effect.after, hrun]
      exact .load (loads_loading s kind)

theorem changes_of_recalls {s s' : State} (h : ReflTransGen Recalls s s') :
  ReflTransGen (Change o) s s'
  := h.lift id fun _ _ hrecalls => hrecalls.change o

theorem changes_putDependencies (hs : s.Usable) :
  ReflTransGen (Change o) s (Effect.after (putDependencies o.dependenciesIn) s)
  := by
  have hconsult := changes_of_recalls (o := o) (recalls_dependencyIndex (s := s))
  obtain ⟨s₁, hrun, hremembered, hs₁⟩ := dependencyShelf.run_consult s
  rw [dependencyIndex_eq, Effect.after, hrun] at hconsult
  rw [Effect.after, putDependencies_eq]
  cases hindex : dependencyShelf.index s with
  | error failure =>
    rw [hindex] at hrun
    rw [run_bind_error hrun]
    apply hconsult
  | ok index =>
    rw [hindex] at hrun
    have hs₁' : s₁.Usable := by
      obtain rfl | ⟨rs, -, rfl⟩ := hs₁
      · apply hs
      · apply hs.congr rfl rfl
    obtain ⟨s', hrun', hfiled⟩ := dependencyShelf.run_file hs₁'
      (dependencyShelf.put o.dependenciesIn index)
      (orderedDependencies (dependencyShelf.put o.dependenciesIn index))
    rw [run_bind_ok hrun, hrun']
    apply hconsult.tail (.record (.putDependencies (hremembered index hindex) hfiled))

theorem changes_clearDependencies (hs : s.Usable) :
  ReflTransGen (Change o) s (Effect.after clearDependencies s)
  := by
  obtain ⟨s', hrun, hfiled⟩ := dependencyShelf.run_file hs [] []
  rw [Effect.after, clearDependencies_eq, hrun]
  exact .single (.record (.clearDependencies hfiled))

theorem changes_replaceImplementations (hs : s.Usable) :
  ReflTransGen (Change o) s (Effect.after (replaceImplementations o.implementationsIn) s)
  := by
  obtain ⟨s', hrun, hfiled⟩ := implementationShelf.run_replace hs
    (o.implementationsIn.mergeSort (orderedBy (·.name) (·.entityId)))
  rw [Effect.after, replaceImplementations_eq, hrun]
  exact .single (.record (.replaceImplementations (List.mergeSort_perm _ _) hfiled))

theorem changes_replaceAccounts (hs : s.Usable) :
  ReflTransGen (Change o) s (Effect.after (replaceAccounts o.accountsIn) s)
  := by
  obtain ⟨s', hrun, hfiled⟩ := accountsShelf.run_replace hs
    (o.accountsIn.mergeSort (orderedBy (·.name) (·.structId)))
  rw [Effect.after, replaceAccounts_eq, hrun]
  exact .single (.record (.replaceAccounts (List.mergeSort_perm _ _) hfiled))

end

/-- What an operation does to a usable store is put together from changes. -/
theorem Operation.changes (o : Operation) {s : State} (hs : s.Usable) (hindexed : s.Indexed) :
  ReflTransGen (Change o) s (o.after s)
  := by
  cases o with
  | upsert kind e => exact changes_put hs .merge kind
  | upsertMany kind batch => exact changes_put hs .merge kind
  | replaceAll kind batch => exact changes_put hs .replace kind
  | putDependencies rs => exact changes_putDependencies hs
  | clearDependencies => exact changes_clearDependencies hs
  | replaceImplementations rs => exact changes_replaceImplementations hs
  | replaceAccounts rs => exact changes_replaceAccounts hs
  | all kind => exact changes_of_recalls (recalls_all kind)
  | query kind name role => exact changes_of_recalls (recalls_query kind name role)
  | find id => exact changes_of_recalls (recalls_find? hindexed id)
  | read id => exact changes_of_recalls (recalls_read hindexed id)
  | locate id =>
    rw [Operation.after, Store.locate, after_bind_eq fun _ _ => rfl]
    apply changes_of_recalls (recalls_read hindexed id)
  | dependency ownerId =>
    rw [Operation.after, dependency?, after_bind_eq fun _ _ => rfl]
    apply changes_of_recalls recalls_dependencyIndex
  | dependencies =>
    rw [Operation.after, Store.dependencies, after_bind_eq fun _ _ => rfl]
    apply changes_of_recalls recalls_dependencyIndex
  | implementation id =>
    rw [Operation.after, implementation?, after_bind_eq fun _ _ => rfl]
    apply changes_of_recalls recalls_implementationIndex
  | implementations =>
    rw [Operation.after, Store.implementations, after_bind_eq fun _ _ => rfl]
    apply changes_of_recalls recalls_implementationIndex
  | accountsOf structId =>
    rw [Operation.after, accountsOf?, after_bind_eq fun _ _ => rfl]
    apply changes_of_recalls recalls_accountsIndex
  | accountsRecords =>
    rw [Operation.after, Store.accountsRecords, after_bind_eq fun _ _ => rfl]
    apply changes_of_recalls recalls_accountsIndex
  | reopen => exact .single (.reopen rfl)

/-- What every change of the operations of a run preserves holds after the run. -/
theorem preserved_afterAll {P : State → Prop} (husable : ∀ s, P s → s.Usable)
    (hindexed : ∀ s, P s → s.Indexed) {ops : List Operation}
    (hchange : ∀ o ∈ ops, ∀ s s', Change o s s' → P s → P s') {s : State} (h : P s) :
  P (s.afterAll ops)
  := by
  induction ops generalizing s with
  | nil => exact h
  | cons o rest ih =>
    apply ih
    · intro o' ho'
      apply hchange o' (List.mem_cons_of_mem o ho')
    · have hchanges := o.changes (husable s h) (hindexed s h)
      change P (o.after s)
      generalize o.after s = s' at hchanges ⊢
      induction hchanges with
      | refl => exact h
      | tail _ hlast ih' => exact hchange o List.mem_cons_self _ _ hlast ih'

end AnchorIndex.Store
