import AnchorIndex.Document.Decode
import AnchorIndex.Files.Disk

/-!
# Faults and failures

What goes wrong inside the index is a `Fault`: each has a code by which programs tell it, a text
and details. A `Failure` is anything that can end an operation: a fault, an argument out of its
domain, text that cannot be decoded, a refusal of the file system, settings that are rejected, or
a command that cannot be carried out.
-/

namespace AnchorIndex

/-! ### Codes -/

/-- The codes of faults. -/
inductive Code where
  | configParse
  | configInvalid
  | configFileMissing
  | entityMissing
  | documentFormat
  | entrypointMissing
  | sourceUnreadable
  | internal
  deriving DecidableEq, Repr

namespace Code

/-- All codes. -/
def all : List Code :=
  [configParse, configInvalid, configFileMissing, entityMissing, documentFormat,
    entrypointMissing, sourceUnreadable, internal]

/-- The number of a code. -/
def number : Code → Nat
  | configParse => 2001
  | configInvalid => 2002
  | configFileMissing => 2004
  | entityMissing => 3001
  | documentFormat => 3002
  | entrypointMissing => 3003
  | sourceUnreadable => 3004
  | internal => 9001

/-- The name of a code. -/
def label : Code → String
  | configParse => "CONFIG_PARSE_ERROR"
  | configInvalid => "CONFIG_INVALID_VALUE"
  | configFileMissing => "CONFIG_FILE_NOT_FOUND"
  | entityMissing => "ENTITY_NOT_FOUND"
  | documentFormat => "DOCUMENT_FORMAT_ERROR"
  | entrypointMissing => "ENTRYPOINT_NOT_FOUND"
  | sourceUnreadable => "SOURCE_UNREADABLE"
  | internal => "INTERNAL_ERROR"

/-- The code with a number. -/
def ofNumber? (n : Int) : Option Code :=
  all.find? fun c => (c.number : Int) == n

end Code

/-- A fault as it is reported. -/
structure Report where
  code : Code
  message : String
  retryable : Bool
  details : List (String × Datum)

/-- The report on one line. -/
def Report.line (r : Report) : String :=
  "[" ++ toString r.code.number ++ "] " ++ r.code.label ++ ": " ++ r.message

/-- The report as a table. -/
def Report.toDatum (r : Report) : Datum :=
  .table
    [("code", .int r.code.number),
      ("error", .text r.code.label),
      ("message", .text r.message),
      ("retryable", .bool r.retryable),
      ("details", .table r.details)]

/-! ### Faults -/

/-- What goes wrong inside the index. -/
inductive Fault where
  /-- A settings file cannot be read. -/
  | configParse (path reason : String)
  /-- A setting has a value that it cannot have. -/
  | configInvalid (field : String) (value : Datum) (reason : String)
  /-- A file that the settings name is not there. -/
  | configFileMissing (path : String)
  /-- No entity has an identity that is looked up. -/
  | entityMissing (id place : String)
  /-- A stored document cannot be decoded. -/
  | document (fault : Document.Fault)
  /-- There is not exactly one entrypoint of a name. -/
  | entrypointMissing (name : String) (found : Int)
  /-- The accounts struct that an entrypoint takes is not there. -/
  | contextMissing (name context : String)
  /-- A source file cannot be read. -/
  | sourceUnreadable (path reason : String)
  /-- Something that should not happen. -/
  | unexpected (reason : String) (details : List (String × Datum))

/-- A text between single quotes, as it is. -/
def inQuotes (s : String) : String :=
  "'" ++ s ++ "'"

/-- The report of a flaw of a document. -/
def Document.Fault.report (f : Document.Fault) : Report :=
  let about : String × Datum := ("document", .text f.document)
  let shown : String × Datum := ("section", .text f.sectionText)
  match f.flaw with
  | .malformedLine line =>
    { code := .documentFormat
      message := "Malformed line in " ++ f.document ++ ": " ++
        Text.quote (String.ofList (Text.strip line.toList))
      retryable := false
      details := [about, ("line", .text line), shown] }
  | .missingField key =>
    { code := .documentFormat
      message := "Section in " ++ f.document ++ " is missing " ++ inQuotes key
      retryable := false
      details := [about, ("key", .text key), shown] }
  | .invalidValue key value reason =>
    { code := .documentFormat
      message := "Invalid value for " ++ inQuotes key ++ " in " ++ f.document ++ ": " ++ reason
      retryable := false
      details := [about, ("key", .text key), ("value", .text value), ("reason", .text reason), shown] }

/-- The report of a fault. -/
def Fault.report : Fault → Report
  | configParse path reason =>
    ⟨.configParse, "Failed to parse config at " ++ path ++ ": " ++ reason, false,
      [("path", .text path), ("reason", .text reason)]⟩
  | configInvalid field value reason =>
    ⟨.configInvalid, "Invalid value for " ++ inQuotes field ++ ": " ++ reason, false,
      [("field", .text field), ("value", .text value.display), ("reason", .text reason)]⟩
  | configFileMissing path =>
    ⟨.configFileMissing, "Configured file not found: " ++ path, false, [("path", .text path)]⟩
  | entityMissing id place =>
    ⟨.entityMissing, "No entity with id " ++ inQuotes id ++ " in " ++ place, false,
      [("id", .text id), ("where", .text place)]⟩
  | document fault => fault.report
  | entrypointMissing name found =>
    ⟨.entrypointMissing,
      "Expected one entrypoint named " ++ inQuotes name ++ ", found " ++ toString found, false,
      [("name", .text name), ("matches", .int found)]⟩
  | contextMissing name context =>
    ⟨.entrypointMissing,
      "No context accounts struct " ++ inQuotes context ++ " for entrypoint " ++ inQuotes name,
      false, [("name", .text name), ("context_name", .text context)]⟩
  | sourceUnreadable path reason =>
    ⟨.sourceUnreadable, "Cannot read source file " ++ path ++ ": " ++ reason, false,
      [("path", .text path), ("reason", .text reason)]⟩
  | unexpected reason details =>
    ⟨.internal, "Internal error: " ++ reason, false, details⟩

/-! ### Failures -/

/-- A value of the settings that is rejected: where it stands, what is said, and the value. -/
structure Rejection where
  location : List String
  message : String
  input : Datum

/-- What ends an operation. -/
inductive Failure where
  | fault (fault : Fault)
  /-- An argument is out of its domain. -/
  | argument (message : String)
  /-- A table lacks an entry that it needs. -/
  | missingKey (key : Datum)
  /-- Bytes that should be text are none. -/
  | undecodable (flaw : Text.Utf8.Flaw)
  | refused (refusal : Files.Refusal)
  /-- A link leads back to itself. -/
  | linkLoop (path : String)
  /-- A path starts at the home of a user who has none. -/
  | homeless
  /-- Values of settings are rejected. -/
  | rejected (rejections : List Rejection)
  /-- A variable of the environment that sets values of a section is no JSON. -/
  | environment (sectionName : String)
  /-- Settings are no table but something else. -/
  | notTable (found : Datum)
  /-- Settings have a key that is no text. -/
  | keysNotText
  /-- A value has no part that is found by a number, or by a key. -/
  | notSubscriptable (found : Datum)
  /-- A value has no parts that can be gone through. -/
  | notIterable (found : Datum)
  /-- A value has too few parts. -/
  | tooShort (found : Datum)
  /-- A field of an event has a name that events keep for themselves. The event is important enough
  to be logged, or not. -/
  | reservedField (name : String) (isLogged : Bool)
  /-- A message closes a style that is not open. -/
  | markup (message : String)
  /-- A command cannot be carried out. -/
  | usage (message : String)

/-- The text of a failure. -/
def Failure.message : Failure → String
  | fault f => f.report.line
  | argument message => message
  | missingKey key => key.quoted
  | undecodable flaw => flaw.message
  | refused refusal => refusal.message
  | linkLoop path => "Symlink loop from " ++ Text.quote path
  | homeless => "Could not determine home directory."
  | rejected rs => "\n".intercalate (rs.map (·.message))
  | environment sectionName =>
    "error parsing value for field \"" ++ sectionName ++ "\" from source \"EnvSettingsSource\""
  | notTable (.list _) => "list indices must be integers or slices, not str"
  | notTable d => inQuotes d.shape ++ " object has no attribute 'copy'"
  | keysNotText => "keywords must be strings"
  | notSubscriptable (.list _) => "list indices must be integers or slices, not str"
  | notSubscriptable (.text _) => "string indices must be integers, not 'str'"
  | notSubscriptable d => inQuotes d.shape ++ " object is not subscriptable"
  | notIterable d => inQuotes d.shape ++ " object is not iterable"
  | tooShort (.text _) => "string index out of range"
  | tooShort _ => "list index out of range"
  | reservedField name isLogged =>
    let method :=
      if isLogged then "_make_filtering_bound_logger.<locals>.make_method.<locals>.meth" else "_nop"
    method ++ "() got multiple values for argument " ++ inQuotes name
  | markup message => message
  | usage message => message

/-- What is said of a value that names no member of a set. -/
def notMember (value : Datum) (setName : String) : String :=
  value.quoted ++ " is not a valid " ++ setName

end AnchorIndex
