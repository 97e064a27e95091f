import AnchorIndex.Store.Records
import AnchorIndex.Proofs.Datum.Entries
import AnchorIndex.Proofs.Store.Stored

/-!
# Records that are stored

The three documents of records are kept in the same way (`Shelf`): the records of a document are
remembered under their keys from the first time they are needed, and writing the document changes
what is remembered. The memory mirrors the document (`Shelf.Mirrored`) if under each key it has
what an index of the document has. It does once the document is read (`Shelf.mirrored_consulted`),
and it still does when records are filed, as long as a document keeps them
(`Shelf.Filed.mirrored`).

Of an accounts record that is not clean the document keeps another one (`Account.Record.normal`):
its texts lose breaks and blanks at their ends, and a lifetime or a rent payer that is empty then
becomes none (`kept_accountsRecord`).
-/

namespace AnchorIndex.Store

open Effect
open Document (Schema)

/-! ### Shelves -/

theorem ne_entitySchema {schema : Schema} (h : schema.document ∉ Kind.all.map entityDocument)
    (kind : Kind) :
  schema ≠ entitySchema kind
  := by
  rintro rfl
  apply h
  apply List.mem_map_of_mem (Kind.mem_all kind)

/-- A document of records, and the part of the memory in which they are remembered. The document
keeps clean records as they are. -/
structure Shelf (α : Type) where
  schema : Schema
  record : α → Document.Record
  ofRecord : Document.Record → α
  key : α → String
  remembered : Memory → Option (List (String × α))
  remembering : List (String × α) → Memory → Memory
  IsClean : α → Prop
  mem_schemas : schema ∈ schemas
  ne_entitySchema : ∀ kind, schema ≠ entitySchema kind
  remembered_remembering : ∀ index m, remembered (remembering index m) = some index
  entities_remembering : ∀ index m, (remembering index m).entities = m.entities
  byId_remembering : ∀ index m, (remembering index m).byId = m.byId
  isNormal_record : ∀ r, IsClean r → (record r).IsNormal schema
  ofRecord_record : ∀ r, IsClean r → ofRecord (record r) = r

/-- The shelf of the dependency records. -/
def dependencyShelf : Shelf CallGraph.Record where
  schema := dependencySchema
  record := dependencyRecord
  ofRecord := dependencyOfRecord
  key := (·.ownerId)
  remembered := (·.dependencies)
  remembering := fun index m => { m with dependencies := some index }
  IsClean := CallGraph.Record.IsClean
  mem_schemas := dependencySchema_mem_schemas
  ne_entitySchema := ne_entitySchema (by decide +kernel)
  remembered_remembering := fun _ _ => rfl
  entities_remembering := fun _ _ => rfl
  byId_remembering := fun _ _ => rfl
  isNormal_record := fun _ => isNormal_dependencyRecord
  ofRecord_record := fun _ => dependencyOfRecord_dependencyRecord

/-- The shelf of the implementation records. -/
def implementationShelf : Shelf Implementation.Record where
  schema := implementationSchema
  record := implementationRecord
  ofRecord := implementationOfRecord
  key := (·.entityId)
  remembered := (·.implementations)
  remembering := fun index m => { m with implementations := some index }
  IsClean := Implementation.Record.IsClean
  mem_schemas := implementationSchema_mem_schemas
  ne_entitySchema := ne_entitySchema (by decide +kernel)
  remembered_remembering := fun _ _ => rfl
  entities_remembering := fun _ _ => rfl
  byId_remembering := fun _ _ => rfl
  isNormal_record := fun _ => isNormal_implementationRecord
  ofRecord_record := fun r _ => implementationOfRecord_implementationRecord r

/-- The shelf of the accounts records. -/
def accountsShelf : Shelf Account.Record where
  schema := accountsSchema
  record := accountsRecord
  ofRecord := accountsOfRecord
  key := (·.structId)
  remembered := (·.accounts)
  remembering := fun index m => { m with accounts := some index }
  IsClean := Account.Record.IsClean
  mem_schemas := accountsSchema_mem_schemas
  ne_entitySchema := ne_entitySchema (by decide +kernel)
  remembered_remembering := fun _ _ => rfl
  entities_remembering := fun _ _ => rfl
  byId_remembering := fun _ _ => rfl
  isNormal_record := fun _ => isNormal_accountsRecord
  ofRecord_record := fun r _ => accountsOfRecord_accountsRecord r

namespace Shelf

variable {α : Type} (shelf : Shelf α)

/-- The records that the document holds, or why they cannot be read. -/
def held (s : State) : Except Failure (List α) :=
  (s.records shelf.schema).map (·.map shelf.ofRecord)

/-- The records under their keys: those that are remembered, or else those that the document
holds. -/
def index (s : State) : Except Failure (List (String × α)) :=
  match shelf.remembered s.memory with
  | some index => .ok index
  | none => (shelf.held s).map (indexRecords shelf.key)

/-- The record as its document keeps it. -/
def kept (r : α) : α :=
  shelf.ofRecord ((shelf.record r).normal shelf.schema)

/-- A document keeps a clean record as it is. -/
theorem kept_eq_self {r : α} (h : shelf.IsClean r) :
  shelf.kept r = r
  := by
  rw [kept, (shelf.isNormal_record r h).normal_eq, shelf.ofRecord_record r h]

/-- Looks up the records, and remembers those of the document if none are remembered. -/
def consult : Action (List (String × α)) := do
  match shelf.remembered (← get).memory with
  | some index => return index
  | none =>
    let rs ← readDocument shelf.schema
    let index := indexRecords shelf.key (rs.map shelf.ofRecord)
    remember (shelf.remembering index)
    return index

/-- The state with an index remembered. -/
def consulted (index : List (String × α)) (s : State) : State :=
  { s with memory := shelf.remembering index s.memory }

theorem held_congr {s s' : State} (h : s'.records shelf.schema = s.records shelf.schema) :
  shelf.held s' = shelf.held s
  := by
  rw [held, held, h]

theorem remembered_consulted (index : List (String × α)) (s : State) :
  shelf.remembered (shelf.consulted index s).memory = some index
  := shelf.remembered_remembering index s.memory

/-- Consulting a shelf answers the index, and remembers it if it was not. -/
theorem run_consult (s : State) :
  ∃ s', run shelf.consult s = (shelf.index s, s') ∧
    (∀ index, shelf.index s = .ok index → shelf.remembered s'.memory = some index) ∧
    (s' = s ∨
      ∃ rs, shelf.held s = .ok rs ∧ s' = shelf.consulted (indexRecords shelf.key rs) s)
  := by
  rw [consult, run_get_bind, index]
  cases hmemory : shelf.remembered s.memory with
  | some index =>
    refine ⟨s, rfl, ?_, .inl rfl⟩
    rintro _ ⟨⟩
    apply hmemory
  | none =>
    cases hrecords : s.records shelf.schema with
    | error failure =>
      have hread : run (readDocument shelf.schema) s = (.error failure, s) := by
        rw [run_readDocument, hrecords]
      refine ⟨s, ?_, ?_, .inl rfl⟩
      · rw [held, hrecords]
        apply run_bind_error hread _
      · rw [held, hrecords]
        rintro _ ⟨⟩
    | ok rs =>
      have hread : run (readDocument shelf.schema) s = (.ok rs, s) := by
        rw [run_readDocument, hrecords]
      have hheld : shelf.held s = .ok (rs.map shelf.ofRecord) := by
        rw [held, hrecords]
        rfl
      rw [hheld]
      refine ⟨shelf.consulted _ s, ?_, ?_, .inr ⟨_, rfl, rfl⟩⟩
      · apply run_bind_ok hread _
      · rintro _ ⟨⟩
        apply shelf.remembered_consulted

theorem answer_lookup (k : String) (s : State) :
  answer ((·.lookup k) <$> shelf.consult) s = (shelf.index s).map (·.lookup k)
  := by
  obtain ⟨s', hrun, -⟩ := shelf.run_consult s
  change (run ((·.lookup k) <$> shelf.consult) s).1 = _
  rw [run_map, hrun]

/-- Consulting a shelf leaves the entities as they are. -/
theorem aside_consulted {s : State} (h : s.Usable) (index : List (String × α)) :
  Aside s (shelf.consulted index s)
  := by
  refine ⟨h.congr rfl rfl, rfl, ?_, ?_, fun _ => rfl⟩
  · apply shelf.entities_remembering
  · apply shelf.byId_remembering

/-! ### Mirrors -/

/-- Under each key, what is remembered is what an index of the document has. -/
def Mirrored (s : State) : Prop :=
  ∀ index, shelf.remembered s.memory = some index →
    ∃ rs, shelf.held s = .ok rs ∧ ∀ k, index.lookup k = (indexRecords shelf.key rs).lookup k

variable {shelf}

theorem Mirrored.congr {s s' : State} (h : shelf.Mirrored s)
    (hrecords : s'.records shelf.schema = s.records shelf.schema)
    (hmemory : shelf.remembered s'.memory = shelf.remembered s.memory) :
  shelf.Mirrored s'
  := by
  intro index hindex
  rw [hmemory] at hindex
  rw [shelf.held_congr hrecords]
  apply h index hindex

theorem mirrored_consulted {s : State} {rs : List α} (h : shelf.held s = .ok rs) :
  shelf.Mirrored (shelf.consulted (indexRecords shelf.key rs) s)
  := by
  intro index hindex
  rw [remembered_consulted] at hindex
  cases hindex
  exact ⟨rs, h, fun _ => rfl⟩

/-- As long as the memory mirrors the document, a store that remembers nothing answers for each key
what this one answers. -/
theorem Mirrored.lookup_eq {s s' : State} (h : shelf.Mirrored s)
    (hrecords : s'.records shelf.schema = s.records shelf.schema)
    (hmemory : shelf.remembered s'.memory = none) (k : String) :
  (shelf.index s').map (·.lookup k) = (shelf.index s).map (·.lookup k)
  := by
  rw [index, hmemory, shelf.held_congr hrecords, index]
  cases hindex : shelf.remembered s.memory with
  | none => rfl
  | some index =>
    obtain ⟨rs, hheld, hlookup⟩ := h index hindex
    rw [hheld]
    change Except.ok ((indexRecords shelf.key rs).lookup k) = Except.ok (index.lookup k)
    rw [hlookup]

/-! ### Filing -/

variable (shelf)

/-- In the second state records are written into the document and an index is remembered. -/
structure Filed (s s' : State) (index : List (String × α)) (rs : List α) : Prop where
  wrote : Wrote s s' shelf.schema (rs.map shelf.record)
  mint : s'.mint = s.mint
  memory : s'.memory = shelf.remembering index s.memory

/-- Remembers an index, and writes records into the document. -/
def file (index : List (String × α)) (rs : List α) : Action Unit := do
  remember (shelf.remembering index)
  writeDocument shelf.schema (rs.map shelf.record)

theorem run_file {s : State} (h : s.Usable) (index : List (String × α)) (rs : List α) :
  ∃ s', run (shelf.file index rs) s = (.ok (), s') ∧ shelf.Filed s s' index rs
  := by
  have husable : (shelf.consulted index s).Usable := h.congr rfl rfl
  obtain ⟨disk, hrun, hwrote⟩ := run_writeDocument husable shelf.mem_schemas (rs.map shelf.record)
  refine ⟨(shelf.consulted index s).withDisk disk, ?_, ?_⟩
  · rw [file, run_bind_ok (run_remember _ s)]
    apply hrun
  · exact ⟨hwrote.congr rfl rfl rfl rfl, rfl, rfl⟩

/-- Writes records into the document, and remembers an index of them. -/
def replace (rs : List α) : Action Unit := do
  writeDocument shelf.schema (rs.map shelf.record)
  remember (shelf.remembering (indexRecords shelf.key rs))

theorem run_replace {s : State} (h : s.Usable) (rs : List α) :
  ∃ s', run (shelf.replace rs) s = (.ok (), s') ∧
    shelf.Filed s s' (indexRecords shelf.key rs) rs
  := by
  obtain ⟨disk, hrun, hwrote⟩ := run_writeDocument h shelf.mem_schemas (rs.map shelf.record)
  refine ⟨shelf.consulted (indexRecords shelf.key rs) (s.withDisk disk), ?_, ?_⟩
  · rw [replace, run_bind_ok hrun]
    rfl
  · exact ⟨hwrote.congr rfl rfl rfl rfl, rfl, rfl⟩

variable {shelf}

namespace Filed

variable {s s' : State} {index : List (String × α)} {rs : List α}

/-- The document holds the records as it keeps them. -/
theorem held_of_fits (h : shelf.Filed s s' index rs)
    (hrs : ∀ r ∈ rs, (shelf.record r).Fits shelf.schema) :
  shelf.held s' = .ok (rs.map shelf.kept)
  := by
  have hfits : ∀ r' ∈ rs.map shelf.record, r'.Fits shelf.schema := by
    intro r' hr'
    obtain ⟨r, hr, rfl⟩ := List.mem_map.1 hr'
    apply hrs r hr
  rw [held, h.wrote.written hfits]
  change Except.ok (((rs.map shelf.record).map _).map shelf.ofRecord) = _
  rw [List.map_map, List.map_map]
  rfl

/-- The document holds the records, if a document keeps them. -/
theorem held_eq (h : shelf.Filed s s' index rs) (hrs : ∀ r ∈ rs, shelf.IsClean r) :
  shelf.held s' = .ok rs
  := by
  have hkept : rs.map shelf.kept = rs := by
    calc rs.map shelf.kept
        = rs.map id := List.map_congr_left fun r hr => shelf.kept_eq_self (hrs r hr)
      _ = rs := List.map_id rs
  rw [h.held_of_fits fun r hr => (shelf.isNormal_record r (hrs r hr)).fits, hkept]

theorem remembered_eq (h : shelf.Filed s s' index rs) :
  shelf.remembered s'.memory = some index
  := by
  rw [h.memory]
  apply shelf.remembered_remembering

/-- Filing records leaves the entities as they are. -/
theorem aside (h : shelf.Filed s s' index rs) :
  Aside s s'
  := by
  constructor
  · apply h.wrote.usable
  · apply h.mint
  · rw [h.memory, shelf.entities_remembering]
  · rw [h.memory, shelf.byId_remembering]
  · intro kind
    apply h.wrote.kept _ (entitySchema_mem_schemas kind) (shelf.ne_entitySchema kind).symm

/-- The memory mirrors the document if under each key it has what an index of the records has. -/
theorem mirrored (h : shelf.Filed s s' index rs) (hrs : ∀ r ∈ rs, shelf.IsClean r)
    (hindex : ∀ k, index.lookup k = (indexRecords shelf.key rs).lookup k) :
  shelf.Mirrored s'
  := by
  intro index' hindex'
  rw [h.remembered_eq] at hindex'
  cases hindex'
  exact ⟨rs, h.held_eq hrs, hindex⟩

end Filed

/-! ### Indices -/

variable (shelf)

/-- No key stands twice in the index, and each record is clean and stands under its key. -/
structure IsIndex (index : List (String × α)) : Prop where
  nodup : (index.map Prod.fst).Nodup
  key_eq : ∀ p ∈ index, p.1 = shelf.key p.2
  isClean : ∀ p ∈ index, shelf.IsClean p.2

/-- Puts records into an index, under their keys. -/
def put (rs : List α) (index : List (String × α)) : List (String × α) :=
  rs.foldl (fun acc r => setEntry (shelf.key r) r acc) index

variable {shelf}

theorem isIndex_nil :
  shelf.IsIndex []
  := by
  constructor
  · apply List.nodup_nil
  · intro _ h
    contradiction
  · intro _ h
    contradiction

/-- Clean records that are put into an index under their keys leave an index. -/
theorem IsIndex.put {index : List (String × α)} (h : shelf.IsIndex index) {rs : List α}
    (hrs : ∀ r ∈ rs, shelf.IsClean r) :
  shelf.IsIndex (shelf.put rs index)
  := by
  have hnodup := nodup_foldl_setEntry shelf.key id rs h.nodup
  have hmem : ∀ p ∈ shelf.put rs index, (∃ r ∈ rs, p = (shelf.key r, r)) ∨ p ∈ index := by
    rintro ⟨k, r⟩ hp
    have hlookup := (lookup_eq_some_iff_mem hnodup).2 hp
    rw [lookup_foldl_setEntry, Option.or_eq_some_iff] at hlookup
    obtain hnew | ⟨-, hold⟩ := hlookup
    · left
      obtain ⟨r', hr', heq⟩ := List.mem_map.1 (mem_of_lookup_eq_some hnew)
      exact ⟨r', List.mem_reverse.1 hr', heq.symm⟩
    · right
      apply mem_of_lookup_eq_some hold
  refine ⟨hnodup, ?_, ?_⟩
  · intro p hp
    obtain ⟨r, -, rfl⟩ | hp := hmem p hp
    · rfl
    · apply h.key_eq p hp
  · intro p hp
    obtain ⟨r, hr, rfl⟩ | hp := hmem p hp
    · apply hrs r hr
    · apply h.isClean p hp

theorem isIndex_indexRecords {rs : List α} (h : ∀ r ∈ rs, shelf.IsClean r) :
  shelf.IsIndex (indexRecords shelf.key rs)
  := by
  rw [indexRecords, mergeRepeated, List.foldl_map]
  apply isIndex_nil.put h

theorem IsIndex.isClean_of_perm {index : List (String × α)} (h : shelf.IsIndex index)
    {rs : List α} (hperm : rs.Perm (index.map Prod.snd)) :
  ∀ r ∈ rs, shelf.IsClean r
  := by
  intro r hr
  obtain ⟨p, hp, rfl⟩ := List.mem_map.1 (hperm.mem_iff.1 hr)
  apply h.isClean p hp

/-- The records of an index, in whatever order, are indexed alike. -/
theorem IsIndex.lookup_eq {index : List (String × α)} (h : shelf.IsIndex index) {rs : List α}
    (hperm : rs.Perm (index.map Prod.snd)) (k : String) :
  index.lookup k = (indexRecords shelf.key rs).lookup k
  := by
  have hmap : (index.map Prod.snd).map (fun r => (shelf.key r, r)) = index := by
    rw [List.map_map]
    calc index.map ((fun r => (shelf.key r, r)) ∘ Prod.snd)
        = index.map id := List.map_congr_left fun p hp => Prod.ext (h.key_eq p hp).symm rfl
      _ = index := List.map_id index
  have hentries : (rs.map fun r => (shelf.key r, r)).Perm index := by
    have hperm' := hperm.map fun r => (shelf.key r, r)
    rwa [hmap] at hperm'
  have hnodup : ((rs.map fun r => (shelf.key r, r)).map Prod.fst).Nodup :=
    (hentries.map Prod.fst).nodup_iff.2 h.nodup
  rw [indexRecords, lookup_mergeRepeated, lookup_reverse hnodup]
  apply Option.ext
  intro r
  rw [lookup_eq_some_iff_mem h.nodup, lookup_eq_some_iff_mem hnodup, hentries.mem_iff]

end Shelf

/-- A document keeps the identity of a struct up to its breaks and ends. -/
theorem structId_kept (r : Account.Record) :
  (accountsShelf.kept r).structId = Document.normalText r.structId
  := by
  change textOf ((accountsRecord r).main.normal accountsSchema.layout) "struct_entity_id" = _
  simp [Document.Section.normal, accountsSchema, accountsRecord, textOf, Document.Section.get,
    Document.Value.normal]

/-! ### Operations on records -/

theorem dependencyIndex_eq :
  dependencyIndex = dependencyShelf.consult
  := by
  rw [dependencyIndex, Shelf.consult]
  congr 1
  funext s
  have hremembered : dependencyShelf.remembered s.memory = s.memory.dependencies := rfl
  rw [hremembered]
  cases s.memory.dependencies <;> rfl

theorem implementationIndex_eq :
  implementationIndex = implementationShelf.consult
  := by
  rw [implementationIndex, Shelf.consult]
  congr 1
  funext s
  have hremembered : implementationShelf.remembered s.memory = s.memory.implementations := rfl
  rw [hremembered]
  cases s.memory.implementations <;> rfl

theorem accountsIndex_eq :
  accountsIndex = accountsShelf.consult
  := by
  rw [accountsIndex, Shelf.consult]
  congr 1
  funext s
  have hremembered : accountsShelf.remembered s.memory = s.memory.accounts := rfl
  rw [hremembered]
  cases s.memory.accounts <;> rfl

/-- The records of an index of dependency records, in the order of their document. -/
def orderedDependencies (index : List (String × CallGraph.Record)) : List CallGraph.Record :=
  (index.map Prod.snd).mergeSort (orderedBy (·.functionName) (·.ownerId))

theorem putDependencies_eq (rs : List CallGraph.Record) :
  putDependencies rs = dependencyShelf.consult >>= fun index =>
    dependencyShelf.file (dependencyShelf.put rs index)
      (orderedDependencies (dependencyShelf.put rs index))
  := by
  rw [← dependencyIndex_eq]
  rfl

theorem clearDependencies_eq :
  clearDependencies = dependencyShelf.file [] []
  := rfl

theorem replaceImplementations_eq (rs : List Implementation.Record) :
  replaceImplementations rs
    = implementationShelf.replace (rs.mergeSort (orderedBy (·.name) (·.entityId)))
  := rfl

theorem replaceAccounts_eq (rs : List Account.Record) :
  replaceAccounts rs = accountsShelf.replace (rs.mergeSort (orderedBy (·.name) (·.structId)))
  := rfl

end AnchorIndex.Store

namespace AnchorIndex

open Document (Section Value normalText normalText_eq_self)

/-! ### Accounts records -/

/-- An optional text as a document keeps it. -/
def normalOption (t? : Option String) : Option String :=
  (t?.map normalText).filter (· != "")

/-- The account field as a document keeps it. -/
def Account.Field.normal (f : Account.Field) : Account.Field :=
  { f with
    name := normalText f.name
    wrapper := normalText f.wrapper
    inner := normalText f.inner
    lifetime := normalOption f.lifetime
    seeds := f.seeds.map normalText
    rentPayer := normalOption f.rentPayer
    validations := f.validations.map normalText }

/-- The accounts record as a document keeps it. -/
def Account.Record.normal (r : Account.Record) : Account.Record where
  structId := normalText r.structId
  name := normalText r.name
  accounts := r.accounts.map Account.Field.normal

/-- An optional text that is not empty stays. -/
theorem normalOption_eq_self {t? : Option String} (h : IsNormalOption t?) :
  normalOption t? = t?
  := by
  cases t? with
  | none => rfl
  | some t =>
    obtain ⟨hnormal, hne⟩ := h t rfl
    rw [normalOption, Option.map_some, normalText_eq_self hnormal]
    simp [hne]

namespace Store

theorem normal_optionalValue (t? : Option String) :
  (optionalValue t?).normal .optionalText = optionalValue (normalOption t?)
  := by
  cases t? with
  | none => rfl
  | some t =>
    by_cases hempty : normalText t = ""
    · simp [optionalValue, Value.normal, normalOption, hempty, Option.filter]
    · simp [optionalValue, Value.normal, normalOption, hempty, Option.filter]

/-- A document keeps the section of an account field as that of the normal field. -/
theorem normal_accountSection (f : Account.Field) :
  (accountSection f).normal accountLayout = accountSection f.normal
  := by
  simp [Section.normal, accountLayout, accountSection, Section.get, List.lookup_cons,
    ← normal_optionalValue, Value.normal, Account.Field.normal]

/-- A document keeps an accounts record as the normal record. -/
theorem kept_accountsRecord (r : Account.Record) :
  accountsShelf.kept r = r.normal
  := by
  have hmain : (accountsRecord r).main.normal accountsSchema.layout
      = (accountsRecord r.normal).main := by
    simp [Section.normal, accountsSchema, accountsRecord, Section.get, Value.normal,
      Account.Record.normal]
  have hchildren : ((accountsRecord r).children.map (·.normal accountLayout))
      = (accountsRecord r.normal).children := by
    rw [accountsRecord, accountsRecord, Account.Record.normal, List.map_map, List.map_map]
    apply List.map_congr_left
    intro f _
    apply normal_accountSection
  have hnormal : (accountsRecord r).normal accountsSchema = accountsRecord r.normal := by
    change (⟨_, (accountsRecord r).children.map (·.normal accountLayout)⟩ : Document.Record) = _
    rw [hmain, hchildren]
  change accountsOfRecord ((accountsRecord r).normal accountsSchema) = _
  rw [hnormal, accountsOfRecord_accountsRecord]

end Store

end AnchorIndex
