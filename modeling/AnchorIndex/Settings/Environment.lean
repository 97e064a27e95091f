import AnchorIndex.Datum.Json
import AnchorIndex.Datum.Basic
import AnchorIndex.Settings.Model
import AnchorIndex.Text.LetterCase

/-!
# Settings of the environment

A variable of the environment sets one value when its name is made up of the prefix, a section and
a key, and a whole section when it ends with the section; capitals do not count. Sections and
lists are given as JSON. `Environment.read` answers what the environment sets.
-/

namespace AnchorIndex

/-- The variables of an environment with their values. -/
abbrev Environment : Type := List (String × String)

namespace Environment

/-- What the parts of a name are set apart by. -/
def delimiter : String := "__"

/-- How the names of variables start. -/
def start : String := "anchorscan" ++ delimiter

/-- The parts of a name between delimiters. -/
def parts : List Char → List (List Char)
  | [] => [[]]
  | '_' :: '_' :: r => [] :: parts r
  | c :: r =>
    match parts r with
    | [] => [[c]]
    | p :: ps => (c :: p) :: ps

/-- A section with its keys; a key whose values are lists is marked. -/
structure Section where
  name : String
  keys : List (String × Bool)

/-- The sections of the settings. -/
def sections : List Section :=
  [⟨"logging", [("level", false), ("outputs", true)]⟩,
    ⟨"program", [("program_dir", false), ("program_lib_path", false)]⟩,
    ⟨"metadata", [("metadata_dir", false)]⟩,
    ⟨"scan", [("extensions", true), ("max_file_size_mb", false), ("kinds", true)]⟩]

/-- The variables with their names in small letters, of several with one name the last one. -/
def lowered (env : Environment) : Environment :=
  mergeRepeated (env.map fun (name, value) => (Text.lower name, value))

/-- The entries with a value put under a path of keys. A value on the way that is no table keeps
its place. -/
def place (value : Datum) : List String → List (String × Datum) → List (String × Datum)
  | [], es => es
  | [key], es => setEntry key value es
  | key :: rest, es =>
    match es.lookup key with
    | some (.table inner) => setEntry key (.table (place value rest inner)) es
    | some _ => es
    | none => setEntry key (.table (place value rest [])) es

/-- The JSON value of a variable of a section. -/
def readJson (s : Section) (value : String) : Except Failure Datum :=
  match Json.parse? value with
  | some d => .ok d
  | none => .error (.environment s.name)

/-- The value under a path of keys of a section. -/
def valueAt (s : Section) (path : List String) (value : String) : Except Failure Datum :=
  match path with
  | [key] =>
    if (s.keys.lookup key).getD false && value != "" then readJson s value else .ok (.text value)
  | _ => .ok (.text value)

/-- What the variables for the keys of a section set. -/
def entriesOf (s : Section) (env : Environment) : Except Failure (List (String × Datum)) :=
  let front := start ++ s.name ++ delimiter
  env.foldlM
    (fun es (name, value) =>
      match Text.afterPiece? front.toList name.toList with
      | none => .ok es
      | some rest =>
        let path := (parts rest).map String.ofList
        (valueAt s path value).map fun d => place d path es)
    []

/-- The entries of a section under its keys as they are spelled in the settings. -/
def respelled (s : Section) (es : List (String × Datum)) : List (String × Datum) :=
  let spelling (key : String) : String :=
    ((s.keys.find? fun (k, _) => k == Text.lower key).map (·.1)).getD key
  mergeRepeated (es.map fun (key, d) => (spelling key, d))

/-- What the environment sets in a section, if it sets anything. -/
def sectionValue (s : Section) (env : Environment) : Except Failure (Option Datum) := do
  match env.lookup (start ++ s.name) with
  | none =>
    let es ← entriesOf s env
    return if es.isEmpty then none else some (.table (respelled s es))
  | some json =>
    match ← readJson s json with
    | .null => return none
    | .table es =>
      let merged := mergeDatum (.table es) (.table (← entriesOf s env))
      return some (.table (respelled s merged.entries))
    | d => return some d

/-- What the environment sets. -/
def read (env : Environment) : Except Failure Datum := do
  let env := lowered env
  let values ← sections.mapM fun s => return (← sectionValue s env).map fun d => (s.name, d)
  return .table (values.filterMap id)

end Environment

end AnchorIndex
