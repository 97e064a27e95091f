import AnchorIndex.Datum.Basic

/-!
# Schemas of section documents

A section document holds records as titled sections of fields. A layout (`Layout`) says what the
title of a section means and which fields follow it, in order, each with the type of its values.
A schema (`Schema`) is the layout of the records of a document, together with the layout of the
subsections if records hold nested ones.
-/

namespace AnchorIndex.Document

/-- The types of field values. -/
inductive FieldType where
  | text
  /-- A text, where the empty one stands for none. -/
  | optionalText
  | integer
  | boolean
  | textList
  /-- First and last line, or none. -/
  | range
  deriving DecidableEq, Repr

/-- A section has to hold a field of this type. -/
def FieldType.isRequired : FieldType → Bool
  | text | integer | boolean => true
  | optionalText | textList | range => false

/-- A field of a section. -/
structure FieldSpec where
  key : String
  type : FieldType
  deriving DecidableEq, Repr

/-- What a section holds: the meaning of its title, and its fields in order. -/
structure Layout where
  titleKey : String
  fields : List FieldSpec
  deriving Repr

/-- The field of a layout with a key. -/
def Layout.field? (l : Layout) (key : String) : Option FieldSpec :=
  l.fields.find? (·.key == key)

/-- What the records of a document are. Nested records stand under a key of their own. -/
structure Schema where
  document : String
  layout : Layout
  nested : Option (String × Layout)
  deriving Repr

/-- The value of a field. -/
inductive Value where
  | absent
  | text (s : String)
  | integer (n : Int)
  | boolean (b : Bool)
  | texts (items : List String)
  | range (first last : Int)
  /-- A range whose ends are given as texts. -/
  | span (first last : String)
  deriving DecidableEq, Repr

/-- A section: its title and the values of its fields. -/
structure Section where
  title : String
  values : List (String × Value)
  deriving DecidableEq, Repr

/-- The value of a field, absent when the section has none. -/
def Section.get (s : Section) (key : String) : Value :=
  (s.values.lookup key).getD .absent

/-- A record: a section with subsections. -/
structure Record where
  main : Section
  children : List Section
  deriving DecidableEq, Repr

/-! ### Values as data -/

/-- The value as a datum. -/
def Value.toDatum : Value → Datum
  | absent => .null
  | text s => .text s
  | integer n => .int n
  | boolean b => .bool b
  | texts items => .list (items.map .text)
  | range first last => .list [.int first, .int last]
  | span first last => .list [.text first, .text last]

/-- The section as a table. -/
def Section.toDatum (l : Layout) (s : Section) : List (String × Datum) :=
  (l.titleKey, .text s.title) :: s.values.map fun (key, v) => (key, v.toDatum)

/-- The record as a table. -/
def Record.toDatum (schema : Schema) (r : Record) : Datum :=
  match schema.nested with
  | none => .table (r.main.toDatum schema.layout)
  | some (key, layout) =>
    .table (r.main.toDatum schema.layout ++
      [(key, .list (r.children.map fun c => .table (c.toDatum layout)))])

end AnchorIndex.Document
