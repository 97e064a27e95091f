import AnchorIndex.Store.Layouts
import AnchorIndex.Proofs.Document.RoundTrip

/-!
# The schemas of the store

The store has eight schemas (`schemas`), and no other schema has a name (`mem_schemas_of_name`).
All of them are well-formed, so every document of the store is read back as what it was written
from, up to the folding and trimming of its texts (`decode_encode_of_mem_schemas`).
-/

namespace AnchorIndex

theorem Kind.mem_all (kind : Kind) :
  kind ∈ Kind.all
  := by
  cases kind <;> decide

namespace Store

open Document (Record Schema Section Value decode encode normalText)

/-- The schemas of the store: one for each kind of entity and one for each kind of record. -/
def schemas : List Schema :=
  Kind.all.map entitySchema ++ [dependencySchema, implementationSchema, accountsSchema]

theorem entitySchema_mem_schemas (kind : Kind) :
  entitySchema kind ∈ schemas
  := by
  apply List.mem_append_left
  apply List.mem_map_of_mem
  apply Kind.mem_all

theorem dependencySchema_mem_schemas :
  dependencySchema ∈ schemas
  := by
  simp [schemas]

theorem implementationSchema_mem_schemas :
  implementationSchema ∈ schemas
  := by
  simp [schemas]

theorem accountsSchema_mem_schemas :
  accountsSchema ∈ schemas
  := by
  simp [schemas]

/-- A schema with a name is one of the schemas of the store. -/
theorem mem_schemas_of_name {name : String} {schema : Schema}
    (h : schemaNamed? name = some schema) :
  schema ∈ schemas
  := by
  simp only [schemaNamed?] at h
  split at h
  · cases h
    simp [schemas]
  · split at h
    · cases h
      simp [schemas]
    · split at h
      · cases h
        simp [schemas]
      · obtain ⟨kind, -, rfl⟩ := Option.map_eq_some_iff.1 h
        apply entitySchema_mem_schemas

/-! ### Their layouts -/

theorem wellFormed_entityLayout :
  entityLayout.WellFormed
  := ⟨by decide, by decide⟩

theorem wellFormed_accountLayout :
  accountLayout.WellFormed
  := ⟨by decide, by decide⟩

theorem wellFormed_entitySchema (kind : Kind) :
  (entitySchema kind).WellFormed
  := by
  constructor
  · apply wellFormed_entityLayout
  · intro key layout h
    cases h

theorem wellFormed_dependencySchema :
  dependencySchema.WellFormed
  := by
  constructor
  · exact ⟨by decide, by decide⟩
  · intro key layout h
    cases h

theorem wellFormed_implementationSchema :
  implementationSchema.WellFormed
  := by
  constructor
  · exact ⟨by decide, by decide⟩
  · intro key layout h
    cases h

theorem wellFormed_accountsSchema :
  accountsSchema.WellFormed
  := by
  constructor
  · exact ⟨by decide, by decide⟩
  · intro key layout h
    cases h
    apply wellFormed_accountLayout

/-- Every schema of the store is well-formed. -/
theorem wellFormed_of_mem_schemas {schema : Schema} (h : schema ∈ schemas) :
  schema.WellFormed
  := by
  obtain h | h := List.mem_append.1 h
  · obtain ⟨kind, -, rfl⟩ := List.mem_map.1 h
    apply wellFormed_entitySchema
  · simp only [List.mem_cons, List.not_mem_nil, or_false] at h
    obtain rfl | rfl | rfl := h
    · apply wellFormed_dependencySchema
    · apply wellFormed_implementationSchema
    · apply wellFormed_accountsSchema

/-! ### Reading back -/

/-- What is written into a document of the store is read back from it, record for record, section
for section and item for item, whatever its texts hold: only line breaks are folded, ends are
trimmed, and an optional text that becomes empty is none. -/
theorem decode_encode_of_mem_schemas {schema : Schema} (hs : schema ∈ schemas) {rs : List Record}
    (hrs : ∀ r ∈ rs, r.Fits schema) :
  decode schema (encode schema rs) = .ok (rs.map (·.normal schema))
  := Document.decode_encode (wellFormed_of_mem_schemas hs) hrs

/-- An account whose texts look like headings, fields and items. -/
def entangledAccount : Section where
  title := "a\n## b"
  values :=
    [("wrapper_type", .text "- inner_type: x"),
      ("inner_type", .text "  - seed  "),
      ("lifetime_marker", .text " \t\r\n "),
      ("is_pda", .boolean true),
      ("is_init", .boolean false),
      ("is_mut", .boolean true),
      ("is_close", .boolean false),
      ("seeds", .texts ["", "- is_pda: true", "# c\r\n\r\n## d", "  "]),
      ("rent_payer", .absent),
      ("validations", .texts [])]

/-- A record whose texts look like headings and fields. -/
def entangledRecord : Record where
  main := { title := "# x \n\n# y", values := [("struct_entity_id", .text "\n- struct_entity_id:")] }
  children := [entangledAccount, entangledAccount]

theorem decode_encode_entangledRecord :
  accountsSchema ∈ schemas ∧ (∀ r ∈ [entangledRecord], r.Fits accountsSchema) ∧
    decode accountsSchema (encode accountsSchema [entangledRecord])
      = .ok [entangledRecord.normal accountsSchema]
  := by
  have hmem := accountsSchema_mem_schemas
  have hfits : ∀ r ∈ [entangledRecord], r.Fits accountsSchema := by
    intro r hr
    rw [List.mem_singleton.1 hr, Record.Fits]
    constructor
    · intro f hf
      simp only [accountsSchema, List.mem_singleton] at hf
      subst hf
      exact .text _
    · intro c hc
      have hc : c = entangledAccount := by simpa [entangledRecord] using hc
      subst hc
      intro f hf
      simp only [accountLayout, List.mem_cons, List.not_mem_nil, or_false] at hf
      rcases hf with rfl | rfl | rfl | rfl | rfl | rfl | rfl | rfl | rfl | rfl <;> constructor
  exact ⟨hmem, hfits, decode_encode_of_mem_schemas hmem hfits⟩

example :
  entangledAccount.normal accountLayout
    = { title := "a ## b"
        values :=
          [("wrapper_type", .text "- inner_type: x"),
            ("inner_type", .text "- seed"),
            ("lifetime_marker", .absent),
            ("is_pda", .boolean true),
            ("is_init", .boolean false),
            ("is_mut", .boolean true),
            ("is_close", .boolean false),
            ("seeds", .texts ["", "- is_pda: true", "# c ## d", ""]),
            ("rent_payer", .absent),
            ("validations", .texts [])] }
  := by
  simp [Section.normal, accountLayout, entangledAccount, Section.get, List.lookup_cons, Value.normal,
    normalText, ← Document.foldBreaks_eq_foldRuns]
  decide +kernel

end Store

end AnchorIndex
