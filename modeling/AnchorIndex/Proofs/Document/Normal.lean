import AnchorIndex.Document.Schema
import AnchorIndex.Text.Search
import Mathlib.Data.List.Nodup
import AnchorIndex.Proofs.Document.Folding
import AnchorIndex.Proofs.Text.Trimming

/-!
# Normal values

A document does not keep every text as it is: line breaks are folded and the ends are trimmed
(`normalText`), and an optional text that becomes empty is none. `Record.normal` is what a record
becomes this way, provided that its values are of the types of its fields (`Record.Fits`). A
normal record stays as it is.
-/

namespace AnchorIndex.Document

/-! ### Texts -/

/-- The text with its line breaks folded and its ends trimmed. -/
def normalText (s : String) : String :=
  String.ofList (Text.strip (foldRuns s.toList))

/-- A text that a document keeps as it is: it has no line breaks, and no blanks at its ends. -/
def IsNormal (s : String) : Prop :=
  Unbroken s.toList ∧ Text.strip s.toList = s.toList

theorem normalText_eq_self {s : String} (h : IsNormal s) :
  normalText s = s
  := by
  rw [normalText, ← foldBreaks_eq_foldRuns, foldBreaks_eq_self h.1, h.2, String.ofList_toList]

theorem map_normalText_eq_self {ts : List String} (h : ∀ t ∈ ts, IsNormal t) :
  ts.map normalText = ts
  := by
  calc ts.map normalText
      = ts.map id := List.map_congr_left fun t ht => normalText_eq_self (h t ht)
    _ = ts := List.map_id ts

theorem isNormal_strip {cs : List Char} (h : Unbroken cs) :
  IsNormal (String.ofList (Text.strip cs))
  := by
  rw [IsNormal, String.toList_ofList]
  constructor
  · intro c hc
    apply h c (Text.mem_of_mem_strip hc)
  · apply Text.strip_strip

/-- A text without blanks stays as it is. -/
theorem isNormal_of_solid {s : String} (h : ∀ c ∈ s.toList, Text.isBlank c = false) :
  IsNormal s
  := by
  constructor
  · intro c hc
    rw [isBreak, Bool.or_eq_false_iff, beq_eq_false_iff_ne, beq_eq_false_iff_ne]
    constructor
    · rintro rfl
      exact absurd (h _ hc) (by decide)
    · rintro rfl
      exact absurd (h _ hc) (by decide)
  · apply Text.strip_eq_self h

theorem isNormal_normalText (s : String) :
  IsNormal (normalText s)
  := by
  apply isNormal_strip
  rw [← foldBreaks_eq_foldRuns]
  apply unbroken_foldBreaks

theorem isNormal_iff {s : String} :
  IsNormal s ↔ normalText s = s
  := by
  constructor
  · apply normalText_eq_self
  · intro h
    rw [← h]
    apply isNormal_normalText

/-! ### Values -/

/-- The value is one of a field of the type. A range does not start below zero. -/
inductive Value.Fits : FieldType → Value → Prop where
  | text (s : String) : Fits .text (.text s)
  | noText : Fits .optionalText .absent
  | optionalText (s : String) : Fits .optionalText (.text s)
  | integer (n : Int) : Fits .integer (.integer n)
  | boolean (b : Bool) : Fits .boolean (.boolean b)
  | texts (items : List String) : Fits .textList (.texts items)
  | noRange : Fits .range .absent
  | range (first last : Int) (h : 0 ≤ first) : Fits .range (.range first last)

/-- The value as a document keeps it. -/
def Value.normal (type : FieldType) : Value → Value
  | text s => if type = .optionalText ∧ normalText s = "" then absent else text (normalText s)
  | texts items => texts (items.map normalText)
  | v => v

/-- A value keeps its type. -/
theorem Value.Fits.normal {type : FieldType} {v : Value} (h : v.Fits type) :
  (v.normal type).Fits type
  := by
  cases h with
  | text s => exact .text (normalText s)
  | noText => exact .noText
  | optionalText s =>
    rw [Value.normal]
    split
    · exact .noText
    · exact .optionalText (normalText s)
  | integer n => exact .integer n
  | boolean b => exact .boolean b
  | texts items => exact .texts (items.map normalText)
  | noRange => exact .noRange
  | range first last h => exact .range first last h

/-! ### Records -/

/-- The section has a value of the right type for each field. -/
def Section.Fits (l : Layout) (s : Section) : Prop :=
  ∀ f ∈ l.fields, (s.get f.key).Fits f.type

/-- The record and its subsections have the values that the schema asks for. -/
def Record.Fits (schema : Schema) (r : Record) : Prop :=
  r.main.Fits schema.layout ∧
    match schema.nested with
    | none => r.children = []
    | some (_, layout) => ∀ c ∈ r.children, c.Fits layout

/-- The section as a document keeps it: its title, and its values in the order of the fields. -/
def Section.normal (l : Layout) (s : Section) : Section where
  title := normalText s.title
  values := l.fields.map fun f => (f.key, (s.get f.key).normal f.type)

/-- The record as a document keeps it. -/
def Record.normal (schema : Schema) (r : Record) : Record where
  main := r.main.normal schema.layout
  children :=
    match schema.nested with
    | none => []
    | some (_, layout) => r.children.map (·.normal layout)

/-! ### Layouts -/

/-- The text is a name. -/
def isName (s : String) : Bool :=
  match s.toList with
  | [] => false
  | c :: r => Text.isNameStart c && r.all Text.isNameChar

/-- The fields of the layout can be told apart by their keys, which are names. -/
structure Layout.WellFormed (l : Layout) : Prop where
  isName : ∀ f ∈ l.fields, isName f.key = true
  nodup : (l.fields.map (·.key)).Nodup

/-- The layouts of the records and of their subsections are well-formed. -/
structure Schema.WellFormed (schema : Schema) : Prop where
  layout : schema.layout.WellFormed
  nested : ∀ key layout, schema.nested = some (key, layout) → layout.WellFormed

/-- A field is found by its key. -/
theorem Layout.WellFormed.field?_eq {l : Layout} (hl : l.WellFormed) {f : FieldSpec}
    (hf : f ∈ l.fields) :
  l.field? f.key = some f
  := by
  have hex : ∃ g ∈ l.fields, (g.key == f.key) = true := ⟨f, hf, by simp⟩
  obtain ⟨g, hg⟩ := Option.isSome_iff_exists.1 (List.find?_isSome.2 hex)
  have hkey : g.key = f.key := by simpa using List.find?_some hg
  have heq : g = f := List.inj_on_of_nodup_map hl.nodup (List.mem_of_find?_eq_some hg) hf hkey
  rw [Layout.field?, hg, heq]

end AnchorIndex.Document
