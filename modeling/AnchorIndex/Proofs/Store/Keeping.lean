import AnchorIndex.Proofs.Store.Linking
import AnchorIndex.Proofs.Store.Reopening

/-!
# Records that documents keep in another form

A document may keep a record in another form, under the same key. A shelf whose records were all
filed at once remembers them as they were, and holds them in this form (`Shelf.Keeps`). What it
has after the store is opened again is then what it has now, in the form in which the document keeps
it (`Keeps.exists_index`).

A store is asked for entities and for records. Two states answer alike whatever they are asked
(`SameQueries`) if they hold the same entities and the same records (`sameQueries_of_stored`).
-/

namespace AnchorIndex

/-! ### Entries in another form -/

section

variable {α β : Type} (f : α → β)

theorem setEntry_map (key : String) (value : α) (es : List (String × α)) :
  setEntry key (f value) (es.map (Prod.map id f)) = (setEntry key value es).map (Prod.map id f)
  := by
  induction es with
  | nil => rfl
  | cons e es ih =>
    obtain ⟨k, v⟩ := e
    rw [List.map_cons, Prod.map_apply, id, setEntry, setEntry, ih]
    split <;> rfl

end

namespace Store

open Effect

variable {α β : Type}

/-- Records in another form are indexed as the records are, if their keys stay. -/
theorem indexRecords_map {key : α → String} {f : α → α} {rs : List α}
    (h : ∀ r ∈ rs, key (f r) = key r) :
  indexRecords key (rs.map f) = (indexRecords key rs).map (Prod.map id f)
  := by
  have hentries : (rs.map f).map (fun r => (key r, r)) = rs.map fun r => (key r, f r) := by
    rw [List.map_map]
    apply List.map_congr_left
    intro r hr
    exact Prod.ext (h r hr) rfl
  rw [indexRecords, indexRecords, hentries, mergeRepeated, mergeRepeated, List.foldl_map,
    List.foldl_map]
  change List.foldl _ (List.map (Prod.map id f) []) rs = _
  apply List.foldl_hom
  intro es r
  apply setEntry_map

namespace Shelf

variable {shelf : Shelf α} {other : Shelf β} {s s' : State} {f : α → α}

/-- The shelf remembers records, and its document holds them in the given form. -/
def Keeps (shelf : Shelf α) (s : State) (f : α → α) : Prop :=
  ∃ index rs, shelf.remembered s.memory = some index ∧ shelf.held s = .ok rs
    ∧ indexRecords shelf.key rs = index.map (Prod.map id f)

theorem Keeps.congr (h : shelf.Keeps s f)
    (hrecords : s'.records shelf.schema = s.records shelf.schema)
    (hmemory : shelf.remembered s'.memory = shelf.remembered s.memory) :
  shelf.Keeps s' f
  := by
  obtain ⟨index, rs, hindex, hheld, hrs⟩ := h
  refine ⟨index, rs, ?_, ?_, hrs⟩
  · rw [hmemory, hindex]
  · rw [shelf.held_congr hrecords, hheld]

/-- Filing records of another shelf changes nothing of this one. -/
theorem Keeps.filed_other (h : shelf.Keeps s f) {index : List (String × β)} {rs : List β}
    (hfiled : other.Filed s s' index rs) (hne : shelf.schema.document ≠ other.schema.document)
    (hmemory : shelf.remembered (other.remembering index s.memory) = shelf.remembered s.memory) :
  shelf.Keeps s' f
  := by
  apply h.congr
  · apply hfiled.wrote.kept _ shelf.mem_schemas (ne_of_apply_ne Document.Schema.document hne)
  · rw [hfiled.memory, hmemory]

/-- Records that are filed are kept in the form in which their document keeps them. -/
theorem Filed.keeps {rs : List α} (h : shelf.Filed s s' (indexRecords shelf.key rs) rs)
    (hfits : ∀ r ∈ rs, (shelf.record r).Fits shelf.schema)
    (hkept : ∀ r ∈ rs, shelf.kept r = f r ∧ shelf.key (f r) = shelf.key r) :
  shelf.Keeps s' f
  := by
  have hform : rs.map shelf.kept = rs.map f := List.map_congr_left fun r hr => (hkept r hr).1
  refine ⟨_, _, h.remembered_eq, h.held_of_fits hfits, ?_⟩
  rw [hform]
  apply indexRecords_map
  intro r hr
  exact (hkept r hr).2

/-- What the shelf has, and what it has in every store with the same document that remembers
nothing of it. -/
theorem Keeps.exists_index (h : shelf.Keeps s f) :
  ∃ index, shelf.index s = .ok index ∧ ∀ s' : State,
    s'.records shelf.schema = s.records shelf.schema → shelf.remembered s'.memory = none →
      shelf.index s' = .ok (index.map (Prod.map id f))
  := by
  obtain ⟨index, rs, hindex, hheld, hrs⟩ := h
  refine ⟨index, ?_, ?_⟩
  · rw [Shelf.index, hindex]
  · intro s' hrecords hmemory
    rw [Shelf.index, hmemory, shelf.held_congr hrecords, hheld, ← hrs]
    rfl

/-- What is asked of a shelf, as a whole, is what it has. -/
theorem answer_map_snd (shelf : Shelf α) (s : State) :
  answer ((·.map Prod.snd) <$> shelf.consult) s = (shelf.index s).map (·.map Prod.snd)
  := by
  obtain ⟨s', hrun, -⟩ := shelf.run_consult s
  rw [answer, run_map, hrun]

end Shelf

theorem answer_implementations (s : State) :
  answer implementations s = (implementationShelf.index s).map (·.map Prod.snd)
  := by
  rw [← implementationShelf.answer_map_snd, ← implementationIndex_eq]
  rfl

theorem answer_accountsRecords (s : State) :
  answer accountsRecords s = (accountsShelf.index s).map (·.map Prod.snd)
  := by
  rw [← accountsShelf.answer_map_snd, ← accountsIndex_eq]
  rfl

end Store

end AnchorIndex

namespace AnchorIndex.Store

open Effect

/-! ### What a store is asked -/

theorem answer_dependencies (s : State) :
  answer dependencies s = (dependencyShelf.index s).map (·.map Prod.snd)
  := by
  rw [← dependencyShelf.answer_map_snd, ← dependencyIndex_eq]
  rfl

/-- Both states answer the same about records. -/
structure SameRecords (s s' : State) : Prop where
  dependency : ∀ ownerId, answer (dependency? ownerId) s' = answer (dependency? ownerId) s
  dependencies : answer dependencies s' = answer dependencies s
  implementation : ∀ id, answer (implementation? id) s' = answer (implementation? id) s
  implementations : answer implementations s' = answer implementations s
  accounts : ∀ structId, answer (accountsOf? structId) s' = answer (accountsOf? structId) s
  accountsRecords : answer accountsRecords s' = answer accountsRecords s

/-- Both states answer the same to whatever they are asked. -/
structure SameQueries (s s' : State) : Prop where
  all : ∀ kind, answer (all kind) s' = answer (all kind) s
  query : ∀ kind name role, answer (query kind name role) s' = answer (query kind name role) s
  find : ∀ id, answer (find? id) s' = answer (find? id) s
  read : ∀ id, answer (read id) s' = answer (read id) s
  locate : ∀ id, answer (locate id) s' = answer (locate id) s
  records : SameRecords s s'

section

variable {s s' : State}

/-- Where the records and what is remembered of them are the same, the answers are. -/
theorem sameRecords_of_memory
    (hrecords : ∀ {α} (shelf : Shelf α), s'.records shelf.schema = s.records shelf.schema)
    (hdependencies : s'.memory.dependencies = s.memory.dependencies)
    (himplementations : s'.memory.implementations = s.memory.implementations)
    (haccounts : s'.memory.accounts = s.memory.accounts) :
  SameRecords s s'
  := by
  have hindex : ∀ {α} (shelf : Shelf α), shelf.remembered s'.memory = shelf.remembered s.memory →
      shelf.index s' = shelf.index s := by
    intro α shelf hmemory
    rw [Shelf.index, Shelf.index, hmemory, shelf.held_congr (hrecords shelf)]
  have hindex₁ := hindex dependencyShelf hdependencies
  have hindex₂ := hindex implementationShelf himplementations
  have hindex₃ := hindex accountsShelf haccounts
  constructor
  · intro ownerId
    rw [answer_dependency?, answer_dependency?, hindex₁]
  · rw [answer_dependencies, answer_dependencies, hindex₁]
  · intro id
    rw [answer_implementation?, answer_implementation?, hindex₂]
  · rw [answer_implementations, answer_implementations, hindex₂]
  · intro structId
    rw [answer_accountsOf?, answer_accountsOf?, hindex₃]
  · rw [answer_accountsRecords, answer_accountsRecords, hindex₃]

/-- Saving entities leaves the records as they are. -/
theorem Saved.sameRecords {kind : Kind} {es : List Entity} {taken : Nat}
    (h : Saved s s' kind es taken) :
  SameRecords s s'
  := by
  apply sameRecords_of_memory
  · intro α shelf
    apply h.records_of_ne shelf.mem_schemas (shelf.ne_entitySchema kind)
  all_goals
    rw [h.memory]
    rfl

end

end AnchorIndex.Store
