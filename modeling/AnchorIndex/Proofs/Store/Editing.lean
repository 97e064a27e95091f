import AnchorIndex.Proofs.Document.Reading
import AnchorIndex.Proofs.Store.Schemas

/-!
# Documents edited by hand

The documents of the store are meant to be read and edited by people. Whatever stands in a document
that can be read, writing the records that are read from it and reading them again gives the same
records (`decode_encode_of_decode`). Blank lines, blanks behind lines and the order of the fields
within a section say nothing (`decode_of_isHandEdit`).
-/

namespace AnchorIndex.Store

open Document (Record Schema Section Value IsHandEdit decode encode)

/-! ### What is read is written and read again -/

/-- The records that are read from a document are read again from the document that is written for
them. -/
theorem decode_encode_of_decode {schema : Schema} (hs : schema ∈ schemas) {text : String}
    (htext : '\r' ∉ text.toList) {rs : List Record} (h : decode schema text = .ok rs) :
  decode schema (encode schema rs) = .ok rs
  := by
  have hw := wellFormed_of_mem_schemas hs
  have hnormal : ∀ r ∈ rs, r.IsNormal schema := by
    intro r hr
    apply Document.isNormal_of_mem_decode hw htext h hr
  calc decode schema (encode schema rs)
      = .ok (rs.map (·.normal schema)) :=
        Document.decode_encode hw fun r hr => (hnormal r hr).fits
    _ = .ok (rs.map id) := by
        rw [List.map_congr_left]
        intro r hr
        apply (hnormal r hr).normal_eq
    _ = .ok rs := by rw [List.map_id]

/-- A document of functions as someone may have left it: the fields are in no particular order,
those that may be missing are, and the numbers are spelled in odd ways. -/
def carelessText : String :=
  " \n# \t f \n- enclosing_range:  3--5\n\n- path:\n- end_line_index: +1_0 \n- id: x\n" ++
    "- type: Other\n\t\n- start_line_index: ٣\n# \n- id:\n- type:\t\n- end_line_index: 007\n" ++
    "- start_line_index:  -0\n- path: a  b"

/-- What is read from it. -/
def carelessRecords : List Record :=
  [{ main :=
      { title := "f"
        values :=
          [("id", .text "x"), ("type", .text "Other"), ("path", .text ""),
            ("start_line_index", .integer 3), ("end_line_index", .integer 10),
            ("enclosing_range", .range 3 (-5))] }
     children := [] },
    { main :=
      { title := ""
        values :=
          [("id", .text ""), ("type", .text ""), ("path", .text "a  b"),
            ("start_line_index", .integer 0), ("end_line_index", .integer 7),
            ("enclosing_range", .absent)] }
      children := [] }]

theorem decode_encode_carelessRecords :
  entitySchema .function ∈ schemas ∧ '\r' ∉ carelessText.toList ∧
    decode (entitySchema .function) carelessText = .ok carelessRecords ∧
    decode (entitySchema .function) (encode (entitySchema .function) carelessRecords)
      = .ok carelessRecords
  := by
  have hmem := entitySchema_mem_schemas .function
  have htext : '\r' ∉ carelessText.toList := by decide +kernel
  have hread : decode (entitySchema .function) carelessText = .ok carelessRecords := by
    decide +kernel
  exact ⟨hmem, htext, hread, decode_encode_of_decode hmem htext hread⟩

/-! ### What an edit leaves alone -/

/-- Blank lines, blanks behind lines and the order of the fields within the sections of a document
make no difference to what is read from it. Records whose values are of the types of their fields
are read as their normal forms. -/
theorem decode_of_isHandEdit {schema : Schema} (hs : schema ∈ schemas) {rs : List Record}
    {text : String} (h : IsHandEdit schema rs text) :
  (∀ rs', decode schema text = .ok rs' ↔ decode schema (encode schema rs) = .ok rs') ∧
    ((∀ r ∈ rs, r.Fits schema) → decode schema text = .ok (rs.map (·.normal schema)))
  := by
  have hw := wellFormed_of_mem_schemas hs
  have hiff : ∀ rs', decode schema text = .ok rs' ↔ decode schema (encode schema rs) = .ok rs' := by
    intro rs'
    rw [Document.decode_iff_of_isHandEdit hw h, Document.decode_iff_of_isHandEdit hw h.encode]
  use hiff
  intro hrs
  rw [hiff]
  apply Document.decode_encode hw hrs

/-- The dependencies of a function. -/
def editedRecord : Record where
  main :=
    { title := "f"
      values :=
        [("owner_id", .text "x"), ("internal_dependencies", .texts ["g"]),
          ("external_dependencies", .texts [])] }
  children := []

/-- The layout of dependencies with the fields in another order. -/
def editedLayout : Document.Layout where
  titleKey := "function_name"
  fields :=
    [⟨"external_dependencies", .textList⟩,
      ⟨"internal_dependencies", .textList⟩,
      ⟨"owner_id", .text⟩]

/-- The document of the record, with blanks where they do no harm and with its fields in that
order. -/
def editedText : String :=
  " \n# f\t\n\n- external_dependencies: \n\n\n- internal_dependencies:\n\t\n  - g  \n" ++
    "- owner_id: x\n\n"

theorem isHandEdit_editedText :
  IsHandEdit dependencySchema [editedRecord] editedText
  := by
  have hlines : Text.lines editedText.toList
      = [" ".toList, "# f".toList ++ "\t".toList, [],
          "- external_dependencies:".toList ++ " ".toList, [], [],
          "- internal_dependencies:".toList, "\t".toList, "  - g".toList ++ "  ".toList,
          "- owner_id: x".toList, [], []] := by
    decide +kernel
  have hblock : [Document.sectionLines 1 editedLayout editedRecord.main].flatMap (· ++ [[]])
      = ["# f".toList, [], "- external_dependencies:".toList, "- internal_dependencies:".toList,
          "  - g".toList, "- owner_id: x".toList, []] := by
    decide +kernel
  have hperm : editedLayout.fields.Perm dependencySchema.layout.fields := by decide
  refine ⟨_, ⟨[Document.sectionLines 1 editedLayout editedRecord.main],
    .cons ⟨editedLayout.fields, hperm, rfl⟩ .nil, rfl⟩, ?_⟩
  rw [hlines, hblock]
  exact .blank rfl (.line _ rfl (.cons _ (.line _ rfl (.blank rfl (.blank rfl (.cons _
    (.blank rfl (.line _ rfl (.cons _ (.cons _ (.blank rfl .nil)))))))))))

theorem decode_editedText :
  dependencySchema ∈ schemas ∧ IsHandEdit dependencySchema [editedRecord] editedText ∧
    (∀ r ∈ [editedRecord], r.Fits dependencySchema) ∧
    decode dependencySchema editedText = .ok [editedRecord.normal dependencySchema]
  := by
  have hmem := dependencySchema_mem_schemas
  have hedit := isHandEdit_editedText
  have hfits : ∀ r ∈ [editedRecord], r.Fits dependencySchema := by
    intro r hr
    rw [List.mem_singleton.1 hr]
    refine ⟨?_, rfl⟩
    intro f hf
    simp only [dependencySchema, List.mem_cons, List.not_mem_nil, or_false] at hf
    rcases hf with rfl | rfl | rfl <;> constructor
  exact ⟨hmem, hedit, hfits, (decode_of_isHandEdit hmem hedit).2 hfits⟩

end AnchorIndex.Store
