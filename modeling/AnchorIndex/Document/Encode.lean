import AnchorIndex.Document.Schema
import AnchorIndex.Text.Lines
import AnchorIndex.Text.Blank

/-!
# Writing section documents

A section is written as a heading with its title, an empty line and one line for each field. The
items of a list follow the line of their field, one a line, and subsections follow one level
down. Line breaks inside a text would break this form, so each run of them is folded into one
space (`foldBreaks`).
-/

namespace AnchorIndex.Document

/-! ### Texts on one line -/

/-- A character that breaks a line. -/
def isBreak (c : Char) : Bool :=
  c == '\n' || c == '\r'

/-- A blank that vanishes beside a line break. -/
def isPad (c : Char) : Bool :=
  c == ' ' || c == '\t'

/-- What comes before a position: blanks that vanish if a line break follows them, a line break,
or a line break and blanks. -/
inductive FoldState where
  | text (held : List Char)
  | afterBreak
  | afterPads

/-- Folds the line breaks of a text from a position on. -/
def foldBreaksFrom (state : FoldState) : List Char → List Char
  | [] =>
    match state with
    | .text held => held.reverse
    | _ => []
  | c :: r =>
    match state with
    | .text held =>
      if isBreak c then ' ' :: foldBreaksFrom .afterBreak r
      else if isPad c then foldBreaksFrom (.text (c :: held)) r
      else held.reverse ++ c :: foldBreaksFrom (.text []) r
    | .afterBreak =>
      if isBreak c then foldBreaksFrom .afterBreak r
      else if isPad c then foldBreaksFrom .afterPads r
      else c :: foldBreaksFrom (.text []) r
    | .afterPads =>
      if isBreak c then ' ' :: foldBreaksFrom .afterBreak r
      else if isPad c then foldBreaksFrom .afterPads r
      else c :: foldBreaksFrom (.text []) r

/-- The text with one space in the place of each run of line breaks and the blanks around it. -/
def foldBreaks (cs : List Char) : List Char :=
  foldBreaksFrom (.text []) cs

/-- A text on one line. -/
def oneLine (s : String) : List Char :=
  foldBreaks s.toList

/-! ### Lines of a record -/

/-- The text of a value in a line. -/
def Value.inLine : Value → List Char
  | absent => []
  | text s => oneLine s
  | integer n => (toString n).toList
  | boolean b => if b then "true".toList else "false".toList
  | texts _ => []
  | range first last => (toString first).toList ++ '-' :: (toString last).toList
  | span first last => first.toList ++ '-' :: last.toList

/-- The line of a field. -/
def keyLine (key : String) (value : List Char) : List Char :=
  Text.stripRight ("- ".toList ++ key.toList ++ ": ".toList ++ value)

/-- The line of an item of a list. -/
def itemLine (item : String) : List Char :=
  "  - ".toList ++ oneLine item

/-- The lines of a field. -/
def fieldLines (f : FieldSpec) (v : Value) : List (List Char) :=
  match f.type, v with
  | .textList, .texts items => keyLine f.key [] :: items.map itemLine
  | .textList, _ => [keyLine f.key []]
  | .boolean, .boolean true => [keyLine f.key "true".toList]
  | .boolean, _ => [keyLine f.key "false".toList]
  | _, v => [keyLine f.key v.inLine]

/-- The heading of a section at a level. -/
def headingLine (level : Nat) (title : String) : List Char :=
  List.replicate level '#' ++ ' ' :: oneLine title

/-- The lines of a section at a level. -/
def sectionLines (level : Nat) (l : Layout) (s : Section) : List (List Char) :=
  headingLine level s.title :: [] :: l.fields.flatMap fun f => fieldLines f (s.get f.key)

/-- The lines of a record. -/
def recordLines (schema : Schema) (r : Record) : List (List Char) :=
  sectionLines 1 schema.layout r.main ++
    match schema.nested with
    | none => []
    | some (_, layout) => r.children.flatMap fun c => [] :: sectionLines 2 layout c

/-- The text of a record. -/
def encodeRecord (schema : Schema) (r : Record) : String :=
  String.ofList (Text.unlines (recordLines schema r))

/-- The text of a document: its records in order with an empty line after each. -/
def encode (schema : Schema) (rs : List Record) : String :=
  String.ofList (Text.unlines (rs.flatMap fun r => recordLines schema r ++ [[]]))

end AnchorIndex.Document
