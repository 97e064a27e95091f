import AnchorIndex.Proofs.Store.Fresh
import AnchorIndex.Proofs.Store.Runs

/-!
# Opening a store again

A store that is opened again on the same documents remembers nothing. What it then answers is what
the store answered before (`SameAnswers`), as long as documents keep all that is put into the
store (`Operation.IsClean`): after every run, what the store remembers mirrors its documents
(`Mirrors`, `Mirrors.afterAll`).
-/

namespace AnchorIndex.Store

open Effect
open Document (IsNormal Schema)

/-! ### Answers -/

/-- Both states answer the same for every kind and every identity. -/
structure SameAnswers (s s' : State) : Prop where
  all : ∀ kind, answer (all kind) s' = answer (all kind) s
  find : ∀ id, answer (find? id) s' = answer (find? id) s
  dependency : ∀ ownerId, answer (dependency? ownerId) s' = answer (dependency? ownerId) s
  implementation : ∀ id, answer (implementation? id) s' = answer (implementation? id) s
  accounts : ∀ structId, answer (accountsOf? structId) s' = answer (accountsOf? structId) s

/-- The state answers for every kind and every identity. -/
structure AnswersAll (s : State) : Prop where
  all : ∀ kind, ∃ es, answer (all kind) s = .ok es
  find : ∀ id, ∃ e?, answer (find? id) s = .ok e?
  dependency : ∀ ownerId, ∃ r?, answer (dependency? ownerId) s = .ok r?
  implementation : ∀ id, ∃ r?, answer (implementation? id) s = .ok r?
  accounts : ∀ structId, ∃ r?, answer (accountsOf? structId) s = .ok r?

theorem answer_dependency? (ownerId : String) (s : State) :
  answer (dependency? ownerId) s = (dependencyShelf.index s).map (·.lookup ownerId)
  := by
  rw [← dependencyShelf.answer_lookup, ← dependencyIndex_eq]
  rfl

theorem answer_implementation? (id : String) (s : State) :
  answer (implementation? id) s = (implementationShelf.index s).map (·.lookup id)
  := by
  rw [← implementationShelf.answer_lookup, ← implementationIndex_eq]
  rfl

theorem answer_accountsOf? (structId : String) (s : State) :
  answer (accountsOf? structId) s = (accountsShelf.index s).map (·.lookup structId)
  := by
  rw [← accountsShelf.answer_lookup, ← accountsIndex_eq]
  rfl

/-! ### Mirrors -/

/-- Documents keep all that the operation puts into the store. -/
structure Operation.IsClean (o : Operation) : Prop where
  entities : ∀ e ∈ o.entitiesIn, e.IsClean
  dependencies : ∀ r ∈ o.dependenciesIn, r.IsClean
  implementations : ∀ r ∈ o.implementationsIn, r.IsClean
  accounts : ∀ r ∈ o.accountsIn, r.IsClean

/-- The records that are remembered mirror their documents. -/
structure RecordsMirror (s : State) : Prop where
  dependencies : dependencyShelf.Mirrored s
  isIndex : ∀ index, s.memory.dependencies = some index → dependencyShelf.IsIndex index
  implementations : implementationShelf.Mirrored s
  accounts : accountsShelf.Mirrored s

/-- What the store remembers mirrors its documents. -/
structure Mirrors (s : State) : Prop where
  usable : s.Usable
  tokens : ∀ i, IsNormal (s.mint.token i)
  entities : ∀ kind es, s.memory.entities kind = some es → s.documented kind = .ok es
  indexed : s.Indexed
  records : RecordsMirror s

/-- The entities of a kind that a mirroring store holds are those of the document. -/
theorem Mirrors.stored_eq {s : State} (h : Mirrors s) (kind : Kind) :
  s.stored kind = s.documented kind
  := by
  cases hmemory : s.memory.entities kind with
  | some es => rw [State.stored_of_some hmemory, h.entities kind es hmemory]
  | none => rw [State.stored_of_none hmemory]

theorem Mirrors.isClean {s : State} (h : Mirrors s) {kind : Kind} {es : List Entity}
    (hes : s.stored kind = .ok es) {e : Entity} (he : e ∈ es) :
  e.kind = kind ∧ e.IsClean
  := by
  rw [h.stored_eq] at hes
  exact (isClean_of_documented hes he).symm

/-- A state that remembers nothing mirrors its documents. -/
theorem mirrors_of_empty {s : State} (husable : s.Usable)
    (htokens : ∀ i, IsNormal (s.mint.token i)) (hempty : s.memory = .empty) :
  Mirrors s
  := by
  have hnone : ∀ {α} (shelf : Shelf α), shelf.remembered s.memory = none → shelf.Mirrored s := by
    intro α shelf hnone index hindex
    rw [hnone] at hindex
    contradiction
  refine ⟨husable, htokens, ?_, ?_, hnone _ ?_, ?_, hnone _ ?_, hnone _ ?_⟩
  · intro kind es hes
    rw [hempty] at hes
    contradiction
  · intro index hindex
    rw [hempty] at hindex
    contradiction
  · rw [hempty]
    rfl
  · intro index hindex
    rw [hempty] at hindex
    contradiction
  · rw [hempty]
    rfl
  · rw [hempty]
    rfl

/-- A store that mirrors its documents answers what it answers after it is opened again. -/
theorem Mirrors.sameAnswers {s : State} (h : Mirrors s) :
  SameAnswers s s.reopened
  := by
  have hreopened : Mirrors s.reopened := mirrors_of_empty (h.usable.congr rfl rfl) h.tokens rfl
  have hstored : ∀ kind, s.reopened.stored kind = s.stored kind := by
    intro kind
    rw [h.stored_eq]
    rfl
  have hrecords : ∀ schema, s.reopened.records schema = s.records schema := fun _ => rfl
  constructor
  · intro kind
    rw [answer_all, answer_all, hstored]
  · intro id
    rw [answer_find? h.indexed, answer_find? hreopened.indexed, State.index_congr hstored]
  · intro ownerId
    rw [answer_dependency?, answer_dependency?]
    apply h.records.dependencies.lookup_eq (hrecords _) rfl ownerId
  · intro id
    rw [answer_implementation?, answer_implementation?]
    apply h.records.implementations.lookup_eq (hrecords _) rfl id
  · intro structId
    rw [answer_accountsOf?, answer_accountsOf?]
    apply h.records.accounts.lookup_eq (hrecords _) rfl structId

/-! ### Changes of records -/

section

variable {o : Operation} {s s' : State}

/-- Where records and what is remembered of them stay, they mirror as before. -/
theorem RecordsMirror.congr (h : RecordsMirror s)
    (hrecords : ∀ {α} (shelf : Shelf α), s'.records shelf.schema = s.records shelf.schema)
    (hdependencies : s'.memory.dependencies = s.memory.dependencies)
    (himplementations : s'.memory.implementations = s.memory.implementations)
    (haccounts : s'.memory.accounts = s.memory.accounts) :
  RecordsMirror s'
  := by
  constructor
  · apply h.dependencies.congr (hrecords _) hdependencies
  · rw [hdependencies]
    apply h.isIndex
  · apply h.implementations.congr (hrecords _) himplementations
  · apply h.accounts.congr (hrecords _) haccounts

theorem RecordsMirror.load (h : RecordsMirror s) (hload : Loads s s') :
  RecordsMirror s'
  := h.congr (fun shelf => hload.records_eq shelf.schema) hload.dependencies
    hload.implementations hload.accounts

theorem RecordsMirror.save (h : RecordsMirror s) {kind : Kind} {es : List Entity} {taken : Nat}
    (hsaved : Saved s s' kind es taken) :
  RecordsMirror s'
  := by
  apply h.congr
  · intro α shelf
    apply hsaved.records_of_ne shelf.mem_schemas (shelf.ne_entitySchema kind)
  all_goals
    rw [hsaved.memory]
    rfl

/-- Filing records of one shelf leaves what another one mirrors. -/
theorem mirrored_of_filed {α β : Type} {shelf : Shelf α} {other : Shelf β}
    {index : List (String × α)} {rs : List α} (h : other.Mirrored s)
    (hfiled : shelf.Filed s s' index rs) (hne : other.schema.document ≠ shelf.schema.document)
    (hmemory : other.remembered (shelf.remembering index s.memory) = other.remembered s.memory) :
  other.Mirrored s'
  := by
  apply h.congr
  · apply hfiled.wrote.kept _ other.mem_schemas (ne_of_apply_ne Schema.document hne)
  · rw [hfiled.memory, hmemory]

/-- Filing the records of an index of dependency records leaves all mirrored. -/
theorem RecordsMirror.fileDependencies (h : RecordsMirror s)
    {index : List (String × CallGraph.Record)} {rs : List CallGraph.Record}
    (hfiled : dependencyShelf.Filed s s' index rs) (hindex : dependencyShelf.IsIndex index)
    (hperm : rs.Perm (index.map Prod.snd)) :
  RecordsMirror s'
  := by
  constructor
  · apply hfiled.mirrored (hindex.isClean_of_perm hperm) (hindex.lookup_eq hperm)
  · intro index' hindex'
    have hremembered := hfiled.remembered_eq
    change s'.memory.dependencies = some index at hremembered
    rw [hremembered] at hindex'
    cases hindex'
    apply hindex
  · apply mirrored_of_filed h.implementations hfiled (by decide +kernel) rfl
  · apply mirrored_of_filed h.accounts hfiled (by decide +kernel) rfl

/-- Whatever the document of dependency records holds, it keeps. -/
theorem isClean_of_held {rs : List CallGraph.Record} (h : dependencyShelf.held s = .ok rs) :
  ∀ r ∈ rs, r.IsClean
  := by
  intro r hr
  cases hrecords : s.records dependencySchema with
  | error failure =>
    rw [Shelf.held, show s.records dependencyShelf.schema = .error failure from hrecords] at h
    contradiction
  | ok ds =>
    rw [Shelf.held, show s.records dependencyShelf.schema = .ok ds from hrecords] at h
    cases h
    obtain ⟨d, hd, rfl⟩ := List.mem_map.1 hr
    apply isClean_dependencyOfRecord
    apply isNormal_of_records (wellFormed_of_mem_schemas dependencyShelf.mem_schemas) hrecords hd

/-- Records stay mirrored when clean ones are put into the store. -/
theorem RecordsMirror.change (h : RecordsMirror s) (hchange : RecordChange o s s')
    (ho : o.IsClean) :
  RecordsMirror s'
  := by
  cases hchange with
  | consultDependencies hrs =>
    refine ⟨Shelf.mirrored_consulted hrs, ?_, h.implementations, h.accounts⟩
    rintro _ ⟨⟩
    apply Shelf.isIndex_indexRecords (isClean_of_held hrs)
  | consultImplementations hrs =>
    exact ⟨h.dependencies, h.isIndex, Shelf.mirrored_consulted hrs, h.accounts⟩
  | consultAccounts hrs =>
    exact ⟨h.dependencies, h.isIndex, h.implementations, Shelf.mirrored_consulted hrs⟩
  | putDependencies hindex hfiled =>
    apply h.fileDependencies hfiled
    · exact (h.isIndex _ hindex).put ho.dependencies
    · apply List.mergeSort_perm
  | clearDependencies hfiled =>
    apply h.fileDependencies hfiled Shelf.isIndex_nil (.refl [])
  | replaceImplementations hordered hfiled =>
    constructor
    · apply mirrored_of_filed h.dependencies hfiled (by decide +kernel) rfl
    · rw [hfiled.memory]
      apply h.isIndex
    · apply hfiled.mirrored _ fun _ => rfl
      intro r hr
      apply ho.implementations r (hordered.mem_iff.1 hr)
    · apply mirrored_of_filed h.accounts hfiled (by decide +kernel) rfl
  | replaceAccounts hordered hfiled =>
    constructor
    · apply mirrored_of_filed h.dependencies hfiled (by decide +kernel) rfl
    · rw [hfiled.memory]
      apply h.isIndex
    · apply mirrored_of_filed h.implementations hfiled (by decide +kernel) rfl
    · apply hfiled.mirrored _ fun _ => rfl
      intro r hr
      apply ho.accounts r (hordered.mem_iff.1 hr)

/-! ### Changes of entities -/

theorem Mirrors.save (h : Mirrors s) {kind : Kind} {es : List Entity} {taken : Nat}
    (hsaved : Saved s s' kind es taken) (hes : ∀ e ∈ es, e.kind = kind ∧ e.IsClean) :
  Mirrors s'
  := by
  have hnormal : es.map Entity.normal = es := by
    calc es.map Entity.normal
        = es.map id := List.map_congr_left fun e he => Entity.normal_eq_self (hes e he).2
      _ = es := List.map_id es
  refine ⟨hsaved.wrote.usable, ?_, ?_, hsaved.indexed, h.records.save hsaved⟩
  · rw [hsaved.mint]
    apply h.tokens
  · intro kind' es' hes'
    by_cases hkind : kind' = kind
    · subst hkind
      rw [hsaved.entities_self] at hes'
      cases hes'
      rw [hsaved.documented_self fun e he => ⟨(hes e he).1, (hes e he).2.placed⟩, hnormal]
    · rw [hsaved.entities_of_ne hkind] at hes'
      rw [hsaved.documented_of_ne hkind]
      apply h.entities kind' es' hes'

/-- Putting a clean batch among the entities of a kind leaves these clean. -/
theorem Mirrors.isClean_result (h : Mirrors s) (manner : Manner) {kind : Kind}
    {current : List Entity} (hcurrent : s.stored kind = .ok current) (ho : o.IsClean)
    (hkind : ∀ e ∈ o.entitiesIn, e.kind = kind) :
  ∀ e ∈ manner.result current (assigned (knownIds current) (keyed o.entitiesIn) s.mint),
    e.kind = kind ∧ e.IsClean
  := by
  have hknown : ∀ e ∈ current, IsNormal e.id := by
    intro e he
    exact (h.isClean hcurrent he).2.id
  apply manner.forall_mem_result fun _ he => h.isClean hcurrent he
  apply forall_mem_assigned (fun e => e.kind = kind ∧ e.IsClean) IsNormal
    (forall_mem_knownIds IsNormal hknown) h.tokens
  intro e he id hid
  have hclean := ho.entities e he
  exact ⟨hkind e he, hclean.path, hclean.name, hid, hclean.placed⟩

/-- The memory mirrors the documents as before when what is put into the store is clean. -/
theorem Mirrors.change (h : Mirrors s) (hchange : Change o s s') (ho : o.IsClean) :
  Mirrors s'
  := by
  cases hchange with
  | load hload =>
    refine ⟨h.usable.congr hload.disk hload.folder, ?_, ?_, hload.indexed h.indexed,
      h.records.load hload⟩
    · rw [hload.mint]
      apply h.tokens
    · intro kind es hes
      rw [hload.documented_eq]
      obtain hsame | ⟨-, es', hes', hsome⟩ := hload.entities kind
      · rw [hsame] at hes
        apply h.entities kind es hes
      · rw [hsome] at hes
        cases hes
        apply hes'
  | index hindex =>
    exact ⟨h.usable.congr rfl rfl, h.tokens, h.entities, State.indexed_withIndex hindex,
      h.records.congr (fun _ => rfl) rfl rfl rfl⟩
  | put manner hcurrent hkind hsaved =>
    apply h.save hsaved
    intro e he
    apply h.isClean_result manner hcurrent ho hkind e (mem_listed.1 he)
  | record hrecord =>
    have haside := hrecord.aside h.usable
    refine ⟨haside.usable, ?_, ?_, haside.indexed h.indexed, h.records.change hrecord ho⟩
    · rw [haside.mint]
      apply h.tokens
    · intro kind es hes
      rw [haside.entities] at hes
      rw [haside.documented_eq]
      apply h.entities kind es hes
  | reopen _ => exact mirrors_of_empty (h.usable.congr rfl rfl) h.tokens rfl

end

/-! ### Readable documents -/

/-- All documents can be read. -/
structure Readable (s : State) : Prop where
  entities : ∀ kind, ∃ es, s.documented kind = .ok es
  dependencies : ∃ rs, dependencyShelf.held s = .ok rs
  implementations : ∃ rs, implementationShelf.held s = .ok rs
  accounts : ∃ rs, accountsShelf.held s = .ok rs

theorem State.IsFresh.readable {s : State} (h : s.IsFresh) :
  Readable s
  := by
  have hheld : ∀ {α} (shelf : Shelf α), ∃ rs, shelf.held s = .ok rs := by
    intro α shelf
    use []
    rw [Shelf.held, h.records_eq _ shelf.mem_schemas]
    rfl
  exact ⟨fun kind => ⟨[], h.documented_eq kind⟩, hheld _, hheld _, hheld _⟩

section

variable {o : Operation} {s s' : State}

/-- Where the documents hold what they held, they stay readable. -/
theorem Readable.congr (h : Readable s)
    (hrecords : ∀ schema ∈ schemas, s'.records schema = s.records schema) :
  Readable s'
  := by
  constructor
  · intro kind
    rw [State.documented_eq, hrecords _ (entitySchema_mem_schemas kind), ← State.documented_eq]
    apply h.entities kind
  · rw [Shelf.held_congr _ (hrecords _ dependencyShelf.mem_schemas)]
    apply h.dependencies
  · rw [Shelf.held_congr _ (hrecords _ implementationShelf.mem_schemas)]
    apply h.implementations
  · rw [Shelf.held_congr _ (hrecords _ accountsShelf.mem_schemas)]
    apply h.accounts

theorem Readable.save (h : Readable s) {kind : Kind} {es : List Entity} {taken : Nat}
    (hsaved : Saved s s' kind es taken) (hes : ∀ e ∈ es, e.kind = kind ∧ e.IsClean) :
  Readable s'
  := by
  have hheld : ∀ {α} (shelf : Shelf α), shelf.held s' = shelf.held s := by
    intro α shelf
    apply shelf.held_congr
    apply hsaved.records_of_ne shelf.mem_schemas (shelf.ne_entitySchema kind)
  constructor
  · intro kind'
    by_cases hkind : kind' = kind
    · subst hkind
      exact ⟨_, hsaved.documented_self fun e he => ⟨(hes e he).1, (hes e he).2.placed⟩⟩
    · rw [hsaved.documented_of_ne hkind]
      apply h.entities kind'
  · rw [hheld]
    apply h.dependencies
  · rw [hheld]
    apply h.implementations
  · rw [hheld]
    apply h.accounts

/-- Filing records of one shelf leaves the document of another one readable. -/
theorem held_of_filed {α β : Type} {shelf : Shelf α} {other : Shelf β}
    {index : List (String × α)} {rs : List α} (hfiled : shelf.Filed s s' index rs)
    (hne : other.schema.document ≠ shelf.schema.document) (h : ∃ rs, other.held s = .ok rs) :
  ∃ rs, other.held s' = .ok rs
  := by
  rw [Shelf.held_congr]
  · apply h
  · apply hfiled.wrote.kept _ other.mem_schemas (ne_of_apply_ne Schema.document hne)

theorem Readable.changeRecords (h : Readable s) (hrecords : RecordsMirror s) (husable : s.Usable)
    (hchange : RecordChange o s s') (ho : o.IsClean) :
  Readable s'
  := by
  have hentities : ∀ kind, ∃ es, s'.documented kind = .ok es := by
    intro kind
    rw [(hchange.aside husable).documented_eq]
    apply h.entities kind
  cases hchange with
  | consultDependencies _ => exact h.congr fun _ _ => rfl
  | consultImplementations _ => exact h.congr fun _ _ => rfl
  | consultAccounts _ => exact h.congr fun _ _ => rfl
  | putDependencies hindex hfiled =>
    have hput := (hrecords.isIndex _ hindex).put ho.dependencies
    refine ⟨hentities, ⟨_, hfiled.held_eq (hput.isClean_of_perm (List.mergeSort_perm _ _))⟩, ?_, ?_⟩
    · apply held_of_filed hfiled (by decide +kernel) h.implementations
    · apply held_of_filed hfiled (by decide +kernel) h.accounts
  | clearDependencies hfiled =>
    refine ⟨hentities, ⟨[], hfiled.held_eq fun _ hr => by contradiction⟩, ?_, ?_⟩
    · apply held_of_filed hfiled (by decide +kernel) h.implementations
    · apply held_of_filed hfiled (by decide +kernel) h.accounts
  | replaceImplementations hordered hfiled =>
    refine ⟨hentities, ?_, ⟨_, hfiled.held_eq ?_⟩, ?_⟩
    · apply held_of_filed hfiled (by decide +kernel) h.dependencies
    · intro r hr
      apply ho.implementations r (hordered.mem_iff.1 hr)
    · apply held_of_filed hfiled (by decide +kernel) h.accounts
  | replaceAccounts hordered hfiled =>
    refine ⟨hentities, ?_, ?_, ⟨_, hfiled.held_eq ?_⟩⟩
    · apply held_of_filed hfiled (by decide +kernel) h.dependencies
    · apply held_of_filed hfiled (by decide +kernel) h.implementations
    · intro r hr
      apply ho.accounts r (hordered.mem_iff.1 hr)

/-- Documents stay readable when what is put into the store is clean. -/
theorem Readable.change (h : Readable s) (hmirrors : Mirrors s) (hchange : Change o s s')
    (ho : o.IsClean) :
  Readable s'
  := by
  cases hchange with
  | load hload => exact h.congr fun schema _ => hload.records_eq schema
  | index _ => exact h.congr fun _ _ => rfl
  | put manner hcurrent hkind hsaved =>
    apply h.save hsaved
    intro e he
    apply hmirrors.isClean_result manner hcurrent ho hkind e (mem_listed.1 he)
  | record hrecord => exact h.changeRecords hmirrors.records hmirrors.usable hrecord ho
  | reopen _ => exact h.congr fun _ _ => rfl

end

theorem Shelf.exists_index {α : Type} (shelf : Shelf α) {s : State}
    (h : ∃ rs, shelf.held s = .ok rs) :
  ∃ index, shelf.index s = .ok index
  := by
  obtain ⟨rs, hrs⟩ := h
  rw [Shelf.index, hrs]
  cases shelf.remembered s.memory with
  | some index => exact ⟨index, rfl⟩
  | none => exact ⟨_, rfl⟩

/-- A store that mirrors readable documents answers all. -/
theorem Mirrors.answersAll {s : State} (h : Mirrors s) (hreadable : Readable s) :
  AnswersAll s
  := by
  have hstored : ∀ kind, ∃ es, s.stored kind = .ok es := by
    intro kind
    rw [h.stored_eq]
    apply hreadable.entities kind
  constructor
  · intro kind
    rw [answer_all]
    apply hstored kind
  · intro id
    choose es hes using hstored
    rw [answer_find? h.indexed, State.index_eq hes]
    exact ⟨_, rfl⟩
  · intro ownerId
    obtain ⟨index, hindex⟩ := dependencyShelf.exists_index hreadable.dependencies
    rw [answer_dependency?, hindex]
    exact ⟨_, rfl⟩
  · intro id
    obtain ⟨index, hindex⟩ := implementationShelf.exists_index hreadable.implementations
    rw [answer_implementation?, hindex]
    exact ⟨_, rfl⟩
  · intro structId
    obtain ⟨index, hindex⟩ := accountsShelf.exists_index hreadable.accounts
    rw [answer_accountsOf?, hindex]
    exact ⟨_, rfl⟩

/-! ### Runs -/

section

variable {s : State} {ops : List Operation}

/-- After every run of clean operations the memory mirrors the documents. -/
theorem Mirrors.afterAll (h : Mirrors s) (hops : ∀ o ∈ ops, o.IsClean) :
  Mirrors (s.afterAll ops)
  := by
  apply preserved_afterAll (fun _ h => h.usable) (fun _ h => h.indexed) _ h
  intro o ho s s' hchange hs
  apply hs.change hchange (hops o ho)

/-- Readable documents stay readable in every run of clean operations. -/
theorem Readable.afterAll (h : Readable s) (hmirrors : Mirrors s) (hops : ∀ o ∈ ops, o.IsClean) :
  Readable (s.afterAll ops)
  := by
  have hboth : Mirrors (s.afterAll ops) ∧ Readable (s.afterAll ops) := by
    apply preserved_afterAll (P := fun s => Mirrors s ∧ Readable s) (fun _ h => h.1.usable)
      (fun _ h => h.1.indexed) _ ⟨hmirrors, h⟩
    intro o ho s s' hchange hs
    exact ⟨hs.1.change hchange (hops o ho), hs.2.change hs.1 hchange (hops o ho)⟩
  apply hboth.2

end

/-- A run that puts a function and a dependency record into the store, opens the store again and
puts the function at another place. -/
def feeRun : List Operation :=
  [.upsert .function (feeFunction 1 2),
    .putDependencies [⟨"", "fee", [], []⟩],
    .reopen,
    .upsert .function (feeFunction 6 2)]

theorem isClean_of_mem_feeRun {o : Operation} (ho : o ∈ feeRun) :
  o.IsClean
  := by
  have hfee := isClean_feeFunction
  have hrecord : (⟨"", "fee", [], []⟩ : CallGraph.Record).IsClean := by
    have hclean := hfee 1 2
    exact ⟨hclean.id, hclean.name, fun _ h => by contradiction, fun _ h => by contradiction,
      by decide +kernel, by decide +kernel⟩
  simp only [feeRun, List.mem_cons, List.not_mem_nil, or_false] at ho
  rcases ho with rfl | rfl | rfl | rfl <;> constructor <;> intro x hx <;>
    simp only [Operation.entitiesIn, Operation.dependenciesIn, Operation.implementationsIn,
      Operation.accountsIn, List.mem_singleton, List.not_mem_nil] at hx
  · rw [hx]
    apply hfee
  · rw [hx]
    apply hrecord
  · rw [hx]
    apply hfee

end AnchorIndex.Store
