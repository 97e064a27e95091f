import AnchorIndex.Document.Encode
import AnchorIndex.Text.Numeral
import AnchorIndex.Text.Search

/-!
# Reading section documents

A document is cut at its headings into sections, a section at the headings one level down into
its own lines and its subsections (`splitSections`). Every line is a field, an item of the list
whose field is nearest above it, or blank. Fields may come in any order, and those that a section
need not hold may be missing.

What cannot be read is a `Fault`: it names the document, shows the section, and tells what is
wrong (`Flaw`).
-/

namespace AnchorIndex.Document

/-- What is wrong with a section. -/
inductive Flaw where
  /-- A line that is neither blank nor a field nor an item of a list. -/
  | malformedLine (line : String)
  /-- A field that the section has to hold is missing. -/
  | missingField (key : String)
  /-- A value is not of the type of its field. -/
  | invalidValue (key value reason : String)
  deriving DecidableEq, Repr

/-- A section of a document that cannot be read. -/
structure Fault where
  document : String
  sectionText : String
  flaw : Flaw
  deriving DecidableEq, Repr

/-! ### Lines -/

/-- The key at the start of a text, and the value after its colon. A blank has to stand between
the two. -/
def keyValue? (cs : List Char) : Option (List Char × List Char) :=
  match Text.name? cs with
  | some (key, ':' :: []) => some (key, [])
  | some (key, ':' :: c :: value) => if Text.isBlank c then some (key, value) else none
  | _ => none

/-- The key and the value of the line of a field. -/
def readKeyLine? (line : List Char) : Option (List Char × List Char) :=
  (Text.afterPiece? ['-', ' '] (Text.stripRight line)).bind keyValue?

/-- The item of the line of an item. -/
def readItemLine? (line : List Char) : Option (List Char) :=
  (Text.afterBlanks? line).bind (Text.afterPiece? ['-', ' '])

/-- The line is a heading of a level. -/
def isHeading (level : Nat) (line : List Char) : Bool :=
  Text.startsWith (List.replicate level '#' ++ [' ']) line

/-- One more line in front of lines cut into those before the first heading and the sections. -/
def consLine (level : Nat) (line : List Char) :
    List (List Char) × List (List (List Char)) → List (List Char) × List (List (List Char))
  | (front, sections) =>
    if isHeading level line then ([], (line :: front) :: sections) else (line :: front, sections)

/-- The lines before the first heading of a level, and the sections, each with its heading. -/
def splitSections (level : Nat) (lines : List (List Char)) :
    List (List Char) × List (List (List Char)) :=
  lines.foldr (consLine level) ([], [])

/-! ### Values -/

/-- A report of a value shows this many characters of it at most. -/
def shownLength : Nat := 200

/-- What is said of a text that is no integer. -/
def notInteger (cs : List Char) : String :=
  "invalid literal for int() with base 10: " ++
    String.ofList ((Text.quote (String.ofList cs)).toList.take shownLength)

/-- Reads an integer, or tells why a text is none. -/
def readInteger (cs : List Char) : Except String Int :=
  match Text.readInt? cs with
  | some n => .ok n
  | none => .error (notInteger cs)

/-- Reads a range of lines, or tells why a text is none. -/
def readRange (cs : List Char) : Except String Value :=
  if cs.isEmpty then .ok .absent
  else
    match Text.cutAt? ['-'] cs with
    | none => .error "not enough values to unpack (expected 2, got 1)"
    | some (first, last) => do
      let first ← readInteger first
      let last ← readInteger last
      return .range first last

/-- Reads the value of a field from a trimmed text, or tells why it cannot be read. -/
def readValue (type : FieldType) (cs : List Char) : Except String Value :=
  match type with
  | .integer => (readInteger cs).map .integer
  | .boolean =>
    if cs = "true".toList then .ok (.boolean true)
    else if cs = "false".toList then .ok (.boolean false)
    else .error "expected true or false"
  | .range => readRange cs
  | .optionalText => .ok (if cs.isEmpty then .absent else .text (String.ofList cs))
  | .textList => .ok (.texts [])
  | .text => .ok (.text (String.ofList cs))

/-! ### Sections -/

/-- The fields of a section that are read so far, the latest first. `listing` tells whether the
latest one is a list that takes items. -/
structure Progress where
  values : List (String × Value)
  listing : Bool

/-- The fields with one more item in the latest list, if there is one that takes items. -/
def Progress.addItem? (p : Progress) (item : String) : Option Progress :=
  match p.listing, p.values with
  | true, (key, .texts items) :: r => some { p with values := (key, .texts (items ++ [item])) :: r }
  | _, _ => none

/-- Reads the line of a field. -/
def Progress.readField (l : Layout) (p : Progress) (line : List Char) : Except Flaw Progress :=
  let malformed := Except.error (Flaw.malformedLine (String.ofList line))
  match readKeyLine? line with
  | none => malformed
  | some (key, value) =>
    match l.field? (String.ofList key) with
    | none => malformed
    | some f =>
      let text := Text.strip value
      if (p.values.lookup f.key).isSome then malformed
      else if f.type = .textList then
        if text.isEmpty then .ok ⟨(f.key, .texts []) :: p.values, true⟩ else malformed
      else
        match readValue f.type text with
        | .ok v => .ok ⟨(f.key, v) :: p.values, false⟩
        | .error reason => .error (.invalidValue f.key (String.ofList text) reason)

/-- Reads one line of a section. -/
def Progress.readLine (l : Layout) (p : Progress) (line : List Char) : Except Flaw Progress :=
  if Text.allBlank line then .ok p
  else
    match readItemLine? line with
    | some item =>
      match p.addItem? (String.ofList (Text.strip item)) with
      | some p => .ok p
      | none => .error (.malformedLine (String.ofList line))
    | none => p.readField l line

/-- The value of a field after all lines: what was read, or what a missing field means. -/
def finishField (values : List (String × Value)) (f : FieldSpec) : Except Flaw (String × Value) :=
  match values.lookup f.key with
  | some v => .ok (f.key, v)
  | none =>
    if f.type.isRequired then .error (.missingField f.key)
    else .ok (f.key, if f.type = .textList then .texts [] else .absent)

/-- Reads the fields of a section from its lines. -/
def readFields (l : Layout) (lines : List (List Char)) : Except Flaw (List (String × Value)) := do
  let p ← lines.foldlM (Progress.readLine l) ⟨[], false⟩
  l.fields.mapM (finishField p.values)

/-- The text of a section in a message. -/
def sectionText (lines : List (List Char)) : String :=
  String.ofList (Text.strip (Text.unlines lines))

/-- The title of the heading of a level. -/
def readTitle (level : Nat) (heading : List Char) : String :=
  String.ofList (Text.strip (heading.drop (level + 1)))

/-- The flaw of a section as a fault of the document. -/
def faultIn (document : String) (lines : List (List Char)) {α : Type} :
    Except Flaw α → Except Fault α
  | .ok a => .ok a
  | .error flaw => .error ⟨document, sectionText lines, flaw⟩

/-- Reads a section of a level without subsections. -/
def readLeaf (document : String) (level : Nat) (l : Layout) (lines : List (List Char)) :
    Except Fault Section := do
  let (body, deeper) := splitSections (level + 1) (lines.drop 1)
  let values ← faultIn document lines (readFields l body)
  match deeper with
  | (line :: _) :: _ => faultIn document lines (.error (.malformedLine (String.ofList line)))
  | _ => return ⟨readTitle level (lines.headD []), values⟩

/-- Reads a section with its subsections as a record. -/
def readRecord (schema : Schema) (lines : List (List Char)) : Except Fault Record :=
  match schema.nested with
  | none => do return ⟨← readLeaf schema.document 1 schema.layout lines, []⟩
  | some (_, layout) => do
    let (body, deeper) := splitSections 2 (lines.drop 1)
    let values ← faultIn schema.document lines (readFields schema.layout body)
    let children ← deeper.mapM (readLeaf schema.document 2 layout)
    return ⟨⟨readTitle 1 (lines.headD []), values⟩, children⟩

/-- Reads the records of a document, in their order. Before the first heading there may be only
blank lines. -/
def decode (schema : Schema) (text : String) : Except Fault (List Record) := do
  let (front, sections) := splitSections 1 (Text.lines text.toList)
  match front.find? (!Text.allBlank ·) with
  | some line =>
    .error ⟨schema.document, String.ofList (Text.unlines front), .malformedLine (String.ofList line)⟩
  | none => sections.mapM (readRecord schema)

end AnchorIndex.Document
