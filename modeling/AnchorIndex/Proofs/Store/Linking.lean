import AnchorIndex.Proofs.Store.Identities
import AnchorIndex.Proofs.Store.Remembering

/-!
# Records that refer to entities

Records refer to stored entities by their identities (`DependencyLinks`, `ImplementationLinks`,
`AccountLinks`). In a store that is linked (`Linked`), what is remembered of each kind of record and
what its document holds do so, and the documents hold the stored entities. Recalling keeps a store
linked (`Linked.recall`), and so does opening it again (`Linked.reopened`).
-/

namespace AnchorIndex.Store

open Effect Relation
open Document (IsNormal Schema normalText_eq_self)

/-! ### Shelves -/

/-- Records with different keys stand under these in the order in which they are put in. -/
theorem indexRecords_of_nodup {α : Type} {key : α → String} {rs : List α}
    (h : (rs.map key).Nodup) :
  indexRecords key rs = rs.map fun r => (key r, r)
  := by
  have hnodup : ((rs.map fun r => (key r, r)).map Prod.fst).Nodup := by
    rw [List.map_map]
    apply h
  rw [indexRecords, mergeRepeated, foldl_setEntry_of_nodup Prod.fst Prod.snd]
  · simp
  · apply hnodup

theorem map_snd_indexRecords {α : Type} {key : α → String} {rs : List α}
    (h : (rs.map key).Nodup) :
  (indexRecords key rs).map Prod.snd = rs
  := by
  rw [indexRecords_of_nodup h, List.map_map]
  apply List.map_id

namespace Shelf

variable {α β : Type} {shelf : Shelf α} {other : Shelf β} {s s' : State} {P Q : List α → Prop}

/-- What is remembered of the shelf has a property, and so has what its document holds. -/
structure Shows (shelf : Shelf α) (s : State) (P : List α → Prop) : Prop where
  remembered : ∀ index, shelf.remembered s.memory = some index → P (index.map Prod.snd)
  held : ∃ rs, shelf.held s = .ok rs ∧ P ((indexRecords shelf.key rs).map Prod.snd)

namespace Shows

theorem congr (h : shelf.Shows s P) (hrecords : s'.records shelf.schema = s.records shelf.schema)
    (hmemory : shelf.remembered s'.memory = shelf.remembered s.memory) :
  shelf.Shows s' P
  := by
  constructor
  · rw [hmemory]
    apply h.remembered
  · rw [shelf.held_congr hrecords]
    apply h.held

/-- Where nothing is remembered any more, the document shows the records. -/
theorem forget (h : shelf.Shows s P) (hrecords : s'.records shelf.schema = s.records shelf.schema)
    (hmemory : shelf.remembered s'.memory = none) :
  shelf.Shows s' P
  := by
  constructor
  · rw [hmemory]
    intro index hindex
    contradiction
  · rw [shelf.held_congr hrecords]
    apply h.held

theorem imp (h : shelf.Shows s P) (himp : ∀ rs, P rs → Q rs) :
  shelf.Shows s Q
  := by
  obtain ⟨rs, hheld, hrs⟩ := h.held
  exact ⟨fun index hindex => himp _ (h.remembered index hindex), rs, hheld, himp _ hrs⟩

/-- What the shelf answers has the property. -/
theorem exists_index (h : shelf.Shows s P) :
  ∃ index, shelf.index s = .ok index ∧ P (index.map Prod.snd)
  := by
  cases hmemory : shelf.remembered s.memory with
  | some index =>
    refine ⟨index, ?_, h.remembered index hmemory⟩
    rw [Shelf.index, hmemory]
  | none =>
    obtain ⟨rs, hheld, hrs⟩ := h.held
    refine ⟨indexRecords shelf.key rs, ?_, hrs⟩
    rw [Shelf.index, hmemory, hheld]
    rfl

/-- Loading entities changes nothing of a shelf. -/
theorem load (h : shelf.Shows s P) (hload : Loads s s')
    (hmemory : shelf.remembered s'.memory = shelf.remembered s.memory) :
  shelf.Shows s' P
  := h.congr (hload.records_eq _) hmemory

theorem consulted (h : shelf.Shows s P) {rs : List α} (hrs : shelf.held s = .ok rs) :
  shelf.Shows (shelf.consulted (indexRecords shelf.key rs) s) P
  := by
  obtain ⟨rs', hheld, hP⟩ := h.held
  rw [hrs] at hheld
  cases hheld
  refine ⟨?_, rs, hrs, hP⟩
  intro index hindex
  rw [remembered_consulted] at hindex
  cases hindex
  exact hP

/-- Filing records of another shelf changes nothing of this one. -/
theorem filed_other (h : shelf.Shows s P) {index : List (String × β)} {rs : List β}
    (hfiled : other.Filed s s' index rs) (hne : shelf.schema.document ≠ other.schema.document)
    (hmemory : shelf.remembered (other.remembering index s.memory) = shelf.remembered s.memory) :
  shelf.Shows s' P
  := by
  apply h.congr
  · apply hfiled.wrote.kept _ shelf.mem_schemas (ne_of_apply_ne Schema.document hne)
  · rw [hfiled.memory, hmemory]

end Shows

/-- Records that are filed are shown, if they have the property as their document keeps them. -/
theorem Filed.shows {index : List (String × α)} {rs : List α} (h : shelf.Filed s s' index rs)
    (hindex : P (index.map Prod.snd)) (hfits : ∀ r ∈ rs, (shelf.record r).Fits shelf.schema)
    (hkept : P ((indexRecords shelf.key (rs.map shelf.kept)).map Prod.snd)) :
  shelf.Shows s' P
  := by
  refine ⟨?_, _, h.held_of_fits hfits, hkept⟩
  intro index' hindex'
  rw [h.remembered_eq] at hindex'
  cases hindex'
  exact hindex

end Shelf

/-! ### Entities -/

/-- The store holds these entities under distinct identities, and its documents hold them as a
document keeps them. -/
structure Recorded (s : State) (es : Kind → List Entity) : Prop where
  identified : Identified s es
  placed : ∀ kind, ∀ e ∈ es kind, e.IsPlaced
  named : ∀ kind, ∀ e ∈ es kind, IsNormal e.name
  documented : ∀ kind, s.documented kind = .ok ((es kind).map Entity.normal)

namespace Recorded

variable {s s' : State} {es : Kind → List Entity}

theorem congr (h : Recorded s es) (husable : s'.Usable) (hmint : s'.mint = s.mint)
    (hindexed : s'.Indexed) (hstored : ∀ kind, s'.stored kind = s.stored kind)
    (hdocumented : ∀ kind, s'.documented kind = s.documented kind) :
  Recorded s' es
  := by
  refine ⟨h.identified.congr husable hmint hindexed hstored, h.placed, h.named, ?_⟩
  intro kind
  rw [hdocumented, h.documented]

theorem load (h : Recorded s es) (hload : Loads s s') :
  Recorded s' es
  := h.congr (h.identified.usable.congr hload.disk hload.folder) hload.mint
    (hload.indexed h.identified.indexed) hload.stored_eq hload.documented_eq

theorem aside (h : Recorded s es) (haside : Aside s s') :
  Recorded s' es
  := h.congr haside.usable haside.mint (haside.indexed h.identified.indexed) haside.stored_eq
    haside.documented_eq

/-- A document keeps the identities, so it has the same ones. -/
theorem sameIds (h : Recorded s es) :
  SameIds s es
  := by
  use h.placed
  intro kind
  refine ⟨_, h.documented kind, ?_⟩
  rw [List.map_map]
  apply List.map_congr_left
  intro e he
  apply normalText_eq_self (h.identified.isNormal_id he)

/-- A store that is opened again holds the entities as documents keep them. -/
theorem reopened (h : Recorded s es) :
  Recorded s.reopened fun kind => (es kind).map Entity.normal
  := by
  have hdocumented : ∀ kind, s.reopened.documented kind = .ok ((es kind).map Entity.normal) :=
    h.documented
  have hclean : ∀ kind, ∀ e ∈ (es kind).map Entity.normal, e.IsClean :=
    fun kind e he => (isClean_of_documented (hdocumented kind) he).1
  obtain ⟨ds, hds, -⟩ := h.identified.reopened h.sameIds
  obtain rfl : ds = fun kind => (es kind).map Entity.normal := by
    funext kind
    apply Except.ok.inj
    rw [← hds.stored, ← hdocumented]
    rfl
  refine ⟨hds, ?_, ?_, ?_⟩
  · intro kind e he
    apply (hclean kind e he).placed
  · intro kind e he
    apply (hclean kind e he).name
  · intro kind
    rw [hdocumented]
    congr 1
    calc (es kind).map Entity.normal
        = ((es kind).map Entity.normal).map id := (List.map_id _).symm
      _ = ((es kind).map Entity.normal).map Entity.normal :=
          List.map_congr_left fun e he => (Entity.normal_eq_self (hclean kind e he)).symm

/-- A batch of a kind can take the place of all its entities. -/
theorem replaceAll (h : Recorded s es) {kind : Kind} {batch : List Entity}
    (hbatch : ∀ e ∈ batch, e.kind = kind ∧ e.IsPlaced ∧ IsNormal e.name) :
  ∃ found s', run (Store.replaceAll kind batch) s = (.ok found, s') ∧
    Recorded s' (Function.update es kind (renewed (es kind) batch s.mint)) ∧
    s'.mint = s.mint.skip (newCount (es kind) batch)
  := by
  have hkind : ∀ e ∈ batch, e.kind = kind := fun e he => (hbatch e he).1
  obtain ⟨s', hrun, hsaved⟩ :=
    Manner.replace.run_put h.identified.usable (h.identified.stored kind) hkind
  refine ⟨_, s', hrun, ?_, hsaved.mint⟩
  have hstored : ∀ e ∈ renewed (es kind) batch s.mint,
      e.kind = kind ∧ e.IsPlaced ∧ IsNormal e.name := by
    intro e he
    apply forall_mem_assigned (fun e => e.kind = kind ∧ e.IsPlaced ∧ IsNormal e.name)
      (fun _ => True) (fun _ _ => trivial) (fun _ => trivial) (fun e he _ _ => hbatch e he) e
      (mem_listed.1 he)
  refine ⟨h.identified.put .replace hkind hsaved, ?_, ?_, ?_⟩
  · rw [Function.forall_update_iff es fun _ l => ∀ e ∈ l, e.IsPlaced]
    exact ⟨fun e he => (hstored e he).2.1, fun kind' _ => h.placed kind'⟩
  · rw [Function.forall_update_iff es fun _ l => ∀ e ∈ l, IsNormal e.name]
    exact ⟨fun e he => (hstored e he).2.2, fun kind' _ => h.named kind'⟩
  intro kind'
  by_cases hne : kind' = kind
  · subst hne
    rw [Function.update_self]
    apply hsaved.documented_self fun e he => ⟨(hstored e he).1, (hstored e he).2.1⟩
  · rw [hsaved.documented_of_ne hne, Function.update_of_ne hne, h.documented]

end Recorded

theorem State.IsFresh.recorded {s : State} (h : s.IsFresh) (hlawful : s.mint.IsLawful) :
  Recorded s fun _ => []
  := by
  refine ⟨h.identified hlawful, ?_, ?_, h.documented_eq⟩
  · intro kind e he
    contradiction
  · intro kind e he
    contradiction

/-! ### Links -/

/-- The dependency record refers to stored functions only, and what it takes for foreign is the
name of none of them. -/
structure DependencyLinks (es : Kind → List Entity) (r : CallGraph.Record) : Prop where
  clean : r.IsClean
  internal : ∀ id ∈ r.internal, id ∈ (es .function).map (·.id)
  external : ∀ name ∈ r.external, name ∉ (es .function).map (·.name)

/-- The records are those of the stored implementations, one of each, and refer to stored functions
and traits. -/
structure ImplementationLinks (es : Kind → List Entity) (rs : List Implementation.Record) :
    Prop where
  blocks : (rs.map (·.entityId)).Perm ((es .implementation).map (·.id))
  members : ∀ r ∈ rs, ∀ id ∈ r.memberIds, id ∈ (es .function).map (·.id)
  definitions : ∀ r ∈ rs, ∀ id, r.definitionId = some id → id ∈ (es .trait).map (·.id)

/-- The stored structs that list accounts. -/
def contextStructs (es : Kind → List Entity) : List Entity :=
  (es .struct).filter (·.role == .contextAccounts)

/-- The records are those of the stored structs that list accounts, one of each. -/
def AccountLinks (es : Kind → List Entity) (rs : List Account.Record) : Prop :=
  (rs.map (·.structId)).Perm ((contextStructs es).map (·.id))

/-- The store is linked: documents hold its entities, and records refer to them, those that are
remembered as well as those in documents. -/
structure Linked (s : State) (es : Kind → List Entity) : Prop where
  recorded : Recorded s es
  dependencies : dependencyShelf.Shows s fun rs => ∀ r ∈ rs, DependencyLinks es r
  implementations : implementationShelf.Shows s (ImplementationLinks es)
  accounts : accountsShelf.Shows s (AccountLinks es)

section

variable {s s' : State} {es : Kind → List Entity}

/-- The store stays linked where entities, records and what is remembered of records stay. -/
theorem Linked.congr (h : Linked s es) (hrecorded : Recorded s' es)
    (hrecords : ∀ schema ∈ schemas, s'.records schema = s.records schema)
    (hdependencies : s'.memory.dependencies = s.memory.dependencies)
    (himplementations : s'.memory.implementations = s.memory.implementations)
    (haccounts : s'.memory.accounts = s.memory.accounts) :
  Linked s' es
  := by
  use hrecorded
  · apply h.dependencies.congr (hrecords _ dependencyShelf.mem_schemas) hdependencies
  · apply h.implementations.congr (hrecords _ implementationShelf.mem_schemas) himplementations
  · apply h.accounts.congr (hrecords _ accountsShelf.mem_schemas) haccounts

/-- Recalling leaves the entities as they are. -/
theorem Recorded.recall (h : Recorded s es) (hrecalls : Recalls s s') :
  Recorded s' es
  := by
  have husable := h.identified.usable
  cases hrecalls with
  | load hload => exact h.load hload
  | index hindex =>
    exact h.congr (husable.congr rfl rfl) rfl (State.indexed_withIndex hindex) (fun _ => rfl)
      fun _ => rfl
  | dependencies _ => exact h.aside (Shelf.aside_consulted _ husable _)
  | implementations _ => exact h.aside (Shelf.aside_consulted _ husable _)
  | accounts _ => exact h.aside (Shelf.aside_consulted _ husable _)

theorem Recorded.recalls (h : Recorded s es) (hrecalls : ReflTransGen Recalls s s') :
  Recorded s' es
  := by
  induction hrecalls with
  | refl => exact h
  | tail _ hlast ih => exact ih.recall hlast

/-- Recalling keeps a store linked. -/
theorem Linked.recall (h : Linked s es) (hrecalls : Recalls s s') :
  Linked s' es
  := by
  have hrecorded := h.recorded.recall hrecalls
  cases hrecalls with
  | load hload =>
    exact h.congr hrecorded (fun schema _ => hload.records_eq schema) hload.dependencies
      hload.implementations hload.accounts
  | index _ => exact h.congr hrecorded (fun _ _ => rfl) rfl rfl rfl
  | dependencies hrs =>
    exact ⟨hrecorded, h.dependencies.consulted hrs, h.implementations.congr rfl rfl,
      h.accounts.congr rfl rfl⟩
  | implementations hrs =>
    exact ⟨hrecorded, h.dependencies.congr rfl rfl, h.implementations.consulted hrs,
      h.accounts.congr rfl rfl⟩
  | accounts hrs =>
    exact ⟨hrecorded, h.dependencies.congr rfl rfl, h.implementations.congr rfl rfl,
      h.accounts.consulted hrs⟩

theorem Linked.recalls (h : Linked s es) (hrecalls : ReflTransGen Recalls s s') :
  Linked s' es
  := by
  induction hrecalls with
  | refl => exact h
  | tail _ hlast ih => exact ih.recall hlast

/-- A store that is opened again is linked to the entities as documents keep them. -/
theorem Linked.reopened (h : Linked s es) :
  Linked s.reopened fun kind => (es kind).map Entity.normal
  := by
  have hnormal : ∀ kind, ∀ e ∈ es kind, e.normal.id = e.id ∧ e.normal.name = e.name := by
    intro kind e he
    exact ⟨normalText_eq_self (h.recorded.identified.isNormal_id he),
      normalText_eq_self (h.recorded.named kind e he)⟩
  have hids : ∀ kind, ((es kind).map Entity.normal).map (·.id) = (es kind).map (·.id) := by
    intro kind
    rw [List.map_map]
    apply List.map_congr_left fun e he => (hnormal kind e he).1
  have hnames : ((es .function).map Entity.normal).map (·.name) = (es .function).map (·.name) := by
    rw [List.map_map]
    apply List.map_congr_left fun e he => (hnormal .function e he).2
  have hstructs : (contextStructs fun kind => (es kind).map Entity.normal).map (·.id)
      = (contextStructs es).map (·.id) := by
    rw [contextStructs, List.filter_map, List.map_map]
    apply List.map_congr_left
    intro e he
    exact (hnormal .struct e (List.mem_filter.1 he).1).1
  have hdependencies : dependencyShelf.Shows s.reopened _ := h.dependencies.forget rfl rfl
  have himplementations : implementationShelf.Shows s.reopened _ :=
    h.implementations.forget rfl rfl
  have haccounts : accountsShelf.Shows s.reopened _ := h.accounts.forget rfl rfl
  refine ⟨h.recorded.reopened, hdependencies.imp ?_, himplementations.imp ?_, haccounts.imp ?_⟩
  · intro rs hrs r hr
    obtain ⟨hclean, hinternal, hexternal⟩ := hrs r hr
    constructor
    · apply hclean
    · rwa [hids]
    · rwa [hnames]
  · rintro rs ⟨hblocks, hmembers, hdefinitions⟩
    constructor
    · rwa [hids]
    · rwa [hids]
    · rwa [hids]
  · intro rs hrs
    rwa [AccountLinks, hstructs]

/-- A fresh store is linked to no entities. -/
theorem State.IsFresh.linked (h : s.IsFresh) (hlawful : s.mint.IsLawful) :
  Linked s fun _ => []
  := by
  have hheld : ∀ {α : Type} (shelf : Shelf α), shelf.held s = .ok [] := by
    intro α shelf
    rw [Shelf.held, h.records_eq _ shelf.mem_schemas]
    rfl
  have hnone : ∀ {α : Type} (shelf : Shelf α) {P : List α → Prop},
      shelf.remembered .empty = none → P [] → shelf.Shows s P := by
    intro α shelf P hempty hP
    refine ⟨?_, [], hheld shelf, hP⟩
    rw [h.memory_eq, hempty]
    intro index hindex
    contradiction
  refine ⟨h.recorded hlawful, hnone _ rfl ?_, hnone _ rfl ⟨.refl _, ?_, ?_⟩, hnone _ rfl (.refl _)⟩
  · intro r hr
    contradiction
  · intro r hr
    contradiction
  · intro r hr
    contradiction

/-! ### Answers -/

/-- What is asked of a shelf, as a whole, is answered. -/
theorem Shelf.Shows.answer_records {α : Type} {shelf : Shelf α} {P : List α → Prop}
    (h : shelf.Shows s P) :
  ∃ rs, answer ((·.map Prod.snd) <$> shelf.consult) s = .ok rs ∧ P rs
  := by
  obtain ⟨index, hindex, hP⟩ := h.exists_index
  obtain ⟨s', hrun, -⟩ := shelf.run_consult s
  refine ⟨index.map Prod.snd, ?_, hP⟩
  rw [answer, run_map, hrun, hindex]
  rfl

theorem Linked.answer_dependencies (h : Linked s es) :
  ∃ rs, answer Store.dependencies s = .ok rs ∧ ∀ r ∈ rs, DependencyLinks es r
  := by
  have hanswer := h.dependencies.answer_records
  rwa [← dependencyIndex_eq] at hanswer

theorem Linked.answer_implementations (h : Linked s es) :
  ∃ rs, answer Store.implementations s = .ok rs ∧ ImplementationLinks es rs
  := by
  have hanswer := h.implementations.answer_records
  rwa [← implementationIndex_eq] at hanswer

theorem Linked.answer_accountsRecords (h : Linked s es) :
  ∃ rs, answer accountsRecords s = .ok rs ∧ AccountLinks es rs
  := by
  have hanswer := h.accounts.answer_records
  rwa [← accountsIndex_eq] at hanswer

/-- A dependency record that is answered links to the entities. -/
theorem Linked.answer_dependency? (h : Linked s es) (id : String) :
  ∃ r?, answer (dependency? id) s = .ok r? ∧ ∀ r, r? = some r → DependencyLinks es r
  := by
  obtain ⟨index, hindex, hlinks⟩ := h.dependencies.exists_index
  refine ⟨index.lookup id, ?_, ?_⟩
  · change answer ((·.lookup id) <$> dependencyIndex) s = _
    rw [dependencyIndex_eq, dependencyShelf.answer_lookup, hindex]
    rfl
  · intro r hr
    apply hlinks r (List.mem_map.2 ⟨_, mem_of_lookup_eq_some hr, rfl⟩)

/-! ### Putting records in -/

/-- Records that are put into an index stand in it, beside those there were. -/
theorem mem_of_mem_put {α : Type} {shelf : Shelf α} {index : List (String × α)} {rs : List α}
    {r : α} (h : r ∈ (shelf.put rs index).map Prod.snd) :
  r ∈ rs ∨ r ∈ index.map Prod.snd
  := by
  induction rs generalizing index with
  | nil => exact .inr h
  | cons r' rs ih =>
    obtain h | h := ih h
    · exact .inl (List.mem_cons_of_mem r' h)
    · obtain rfl | h := mem_of_mem_map_snd_setEntry h
      · exact .inl List.mem_cons_self
      · exact .inr h

/-- Dependency records that are filed link to entities if all of them do. -/
theorem shows_fileDependencies {index : List (String × CallGraph.Record)}
    {rs : List CallGraph.Record} (hfiled : dependencyShelf.Filed s s' index rs)
    (hindex : ∀ r ∈ index.map Prod.snd, DependencyLinks es r)
    (hrs : ∀ r ∈ rs, DependencyLinks es r) :
  dependencyShelf.Shows s' fun rs => ∀ r ∈ rs, DependencyLinks es r
  := by
  have hclean : ∀ r ∈ rs, dependencyShelf.IsClean r := fun r hr => (hrs r hr).clean
  apply hfiled.shows hindex
  · intro r hr
    apply (dependencyShelf.isNormal_record r (hclean r hr)).fits
  · intro r hr
    obtain ⟨p, hp, rfl⟩ := List.mem_map.1 hr
    obtain ⟨r, hr, heq⟩ := List.mem_map.1 (mem_of_mem_indexRecords hp)
    rw [← heq, dependencyShelf.kept_eq_self (hclean r hr)]
    apply hrs r hr

/-- Dependency records that link to the entities can be put into a linked store. -/
theorem Linked.putDependencies (h : Linked s es) {rs : List CallGraph.Record}
    (hrs : ∀ r ∈ rs, DependencyLinks es r) :
  ∃ s', run (putDependencies rs) s = (.ok (), s') ∧ Linked s' es
  := by
  obtain ⟨index, hindex, hlinks⟩ := h.dependencies.exists_index
  obtain ⟨s₁, hconsult, -⟩ := dependencyShelf.run_consult s
  have h₁ := h.recalls (recalls_dependencyIndex (s := s))
  rw [dependencyIndex_eq, Effect.after, hconsult] at h₁
  rw [hindex] at hconsult
  have hput : ∀ r ∈ (dependencyShelf.put rs index).map Prod.snd, DependencyLinks es r := by
    intro r hr
    obtain hr | hr := mem_of_mem_put hr
    · apply hrs r hr
    · apply hlinks r hr
  have hordered : ∀ r ∈ orderedDependencies (dependencyShelf.put rs index),
      DependencyLinks es r :=
    fun r hr => hput r ((List.mergeSort_perm _ _).mem_iff.1 hr)
  obtain ⟨s', hrun, hfiled⟩ := dependencyShelf.run_file h₁.recorded.identified.usable
    (dependencyShelf.put rs index) (orderedDependencies (dependencyShelf.put rs index))
  refine ⟨s', by rw [putDependencies_eq, run_bind_ok hconsult, hrun], ?_⟩
  exact ⟨h₁.recorded.aside hfiled.aside, shows_fileDependencies hfiled hput hordered,
    h₁.implementations.filed_other hfiled (by decide +kernel) rfl,
    h₁.accounts.filed_other hfiled (by decide +kernel) rfl⟩

/-- All dependency records can be taken away. -/
theorem Recorded.clearDependencies (h : Recorded s es) :
  ∃ s', run clearDependencies s = (.ok (), s') ∧ Recorded s' es ∧
    dependencyShelf.Shows s' fun rs => ∀ r ∈ rs, DependencyLinks es r
  := by
  have hnone : ∀ r ∈ ([] : List CallGraph.Record), DependencyLinks es r := by
    intro r hr
    contradiction
  obtain ⟨s', hrun, hfiled⟩ := dependencyShelf.run_file h.identified.usable [] []
  refine ⟨s', ?_, h.aside hfiled.aside, shows_fileDependencies hfiled hnone hnone⟩
  rw [clearDependencies_eq, hrun]

/-! ### Replacing records -/

theorem ImplementationLinks.perm {rs rs' : List Implementation.Record}
    (h : ImplementationLinks es rs) (hperm : rs'.Perm rs) :
  ImplementationLinks es rs'
  := by
  constructor
  · apply (hperm.map _).trans h.blocks
  · intro r hr
    apply h.members r (hperm.mem_iff.1 hr)
  · intro r hr
    apply h.definitions r (hperm.mem_iff.1 hr)

/-- Implementation records that refer to what is stored can take the place of all others. -/
theorem Recorded.replaceImplementations (h : Recorded s es) {rs : List Implementation.Record}
    (hrs : ImplementationLinks es rs) (hclean : ∀ r ∈ rs, r.IsClean) :
  ∃ s' index ordered, run (replaceImplementations rs) s = (.ok (), s') ∧
    implementationShelf.Filed s s' index ordered ∧
    implementationShelf.Shows s' (ImplementationLinks es)
  := by
  have hperm := List.mergeSort_perm rs (orderedBy (·.name) (·.entityId))
  obtain ⟨s', hrun, hfiled⟩ := implementationShelf.run_replace h.identified.usable
    (rs.mergeSort (orderedBy (·.name) (·.entityId)))
  refine ⟨s', _, _, hrun, hfiled, ?_⟩
  generalize rs.mergeSort (orderedBy (·.name) (·.entityId)) = ordered at hperm hfiled
  have hlinks := hrs.perm hperm
  have hordered : ∀ r ∈ ordered, implementationShelf.IsClean r :=
    fun r hr => hclean r (hperm.mem_iff.1 hr)
  have hkeys : (ordered.map implementationShelf.key).Nodup :=
    hlinks.blocks.nodup_iff.2 (h.identified.nodup .implementation)
  have hkept : ordered.map implementationShelf.kept = ordered := by
    calc ordered.map implementationShelf.kept
        = ordered.map id :=
          List.map_congr_left fun r hr => implementationShelf.kept_eq_self (hordered r hr)
      _ = ordered := List.map_id ordered
  apply hfiled.shows
  · rwa [map_snd_indexRecords hkeys]
  · intro r hr
    apply (implementationShelf.isNormal_record r (hordered r hr)).fits
  · rwa [hkept, map_snd_indexRecords hkeys]

/-- Accounts records that refer to what is stored can take the place of all others. -/
theorem Recorded.replaceAccounts (h : Recorded s es) {rs : List Account.Record}
    (hrs : AccountLinks es rs) :
  ∃ s' index ordered, run (replaceAccounts rs) s = (.ok (), s') ∧
    accountsShelf.Filed s s' index ordered ∧ accountsShelf.Shows s' (AccountLinks es)
  := by
  have hperm := List.mergeSort_perm rs (orderedBy (·.name) (·.structId))
  obtain ⟨s', hrun, hfiled⟩ := accountsShelf.run_replace h.identified.usable
    (rs.mergeSort (orderedBy (·.name) (·.structId)))
  refine ⟨s', _, _, hrun, hfiled, ?_⟩
  generalize rs.mergeSort (orderedBy (·.name) (·.structId)) = ordered at hperm hfiled
  have hlinks : AccountLinks es ordered := (hperm.map _).trans hrs
  have hnodup : ((contextStructs es).map (·.id)).Nodup :=
    (h.identified.nodup .struct).sublist (List.filter_sublist.map _)
  have hkeys : (ordered.map accountsShelf.key).Nodup := hlinks.nodup_iff.2 hnodup
  have hids : (ordered.map accountsShelf.kept).map accountsShelf.key
      = ordered.map accountsShelf.key := by
    rw [List.map_map]
    apply List.map_congr_left
    intro r hr
    have hid := hlinks.mem_iff.1 (List.mem_map_of_mem (f := (·.structId)) hr)
    obtain ⟨e, he, heq⟩ := List.mem_map.1 hid
    have hnormal := h.identified.isNormal_id (List.mem_filter.1 he).1
    rw [heq] at hnormal
    apply (structId_kept r).trans (normalText_eq_self hnormal)
  apply hfiled.shows
  · rwa [map_snd_indexRecords hkeys]
  · intro r _
    apply fits_accountsRecord
  · rw [map_snd_indexRecords (by rwa [hids])]
    exact (List.Perm.of_eq hids).trans hlinks

end

end AnchorIndex.Store
