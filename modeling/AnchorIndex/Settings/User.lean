import AnchorIndex.Settings.Validation
import AnchorIndex.Yaml.Value

/-!
# Settings of a user

In a workspace the user sets where the program is and what is logged, in a file of its own
(`UserSettings.file`). What the user leaves out has a default, and what is out of the question is
reported as a fault. `UserSettings.render` writes the file with comments for the reader.
-/

namespace AnchorIndex

/-- The settings of a user; `none` where the user sets nothing. -/
structure UserSettings where
  folder : Option String
  libPath : Option (Option String)
  level : Option Level
  deriving DecidableEq, Repr

namespace UserSettings

/-- The user sets nothing. -/
def standard : UserSettings := ⟨none, none, none⟩

/-- The path of the file from the top folder. -/
def file : String := indexFolder ++ "/config.yaml"

/-! ### Values -/

/-- The folder of the program's sources. -/
def folderOrDefault (u : UserSettings) : String :=
  u.folder.getD ProgramSettings.standard.folder

/-- The path of the program's library file. -/
def libPathOrDefault (u : UserSettings) : Option String :=
  u.libPath.getD ProgramSettings.standard.libPath

/-- The level of the log. -/
def levelOrDefault (u : UserSettings) : Level :=
  u.level.getD LogSettings.standard.level

/-- The key of the folder. -/
def folderKey : String := "program_dir"

/-- The key of the library file. -/
def libPathKey : String := "program_lib_path"

/-- The key of the level. -/
def levelKey : String := "log_level"

/-- The keys that the user sets, in order. -/
def keys (u : UserSettings) : List String :=
  (if u.level.isSome then [levelKey] else []) ++ (if u.folder.isSome then [folderKey] else []) ++
    (if u.libPath.isSome then [libPathKey] else [])

/-- All values, also those that the user leaves out. -/
def toDatum (u : UserSettings) : Datum :=
  .table
    [(folderKey, .text u.folderOrDefault),
      (libPathKey, .ofText? u.libPathOrDefault),
      (levelKey, .text u.levelOrDefault.label)]

/-- What the user sets, as settings of a workspace. A library file without a path is not set. -/
def toSettings (u : UserSettings) : Datum :=
  let folder := u.folder.map fun f => ("program_dir", Datum.text f)
  let libPath := (u.libPath.getD none).filter (· != "")
  let libPath := libPath.map fun p => ("program_lib_path", Datum.text p)
  let level := u.level.map fun l => ("level", Datum.text l.label)
  .table [("program", .table (folder.toList ++ libPath.toList)), ("logging", .table level.toList)]

/-! ### The file -/

/-- A setting as a line, behind a mark of comments when it is the default. -/
def line (isDefault : Bool) (key value : String) : String :=
  (if isDefault then "# " else "") ++ key ++ ": " ++ value

/-- The lines of the file. -/
def fileLines (u : UserSettings) : List String :=
  let libPath :=
    match u.libPathOrDefault.filter (· != "") with
    | some p => line false libPathKey p
    | none => line true libPathKey "programs/<name>/src/lib.rs"
  ["# anchorscan configuration",
    "",
    "# Directory walked for program sources (relative to the repo root)",
    line false folderKey u.folderOrDefault,
    "",
    "# File that declares the #[program] module. Leave unset to auto-detect",
    "# <program_dir>/*/src/lib.rs when the workspace has a single program.",
    libPath,
    "",
    "# Log level: DEBUG, INFO, WARNING, ERROR, CRITICAL",
    line (u.levelOrDefault == LogSettings.standard.level) levelKey u.levelOrDefault.label,
    ""]

/-- The text of the file. -/
def render (u : UserSettings) : String :=
  "\n".intercalate u.fileLines

end UserSettings

namespace Validation

/-- The value under a key of a table, or nothing when the key is not there. -/
def given {α : Type} (d : Datum) (key : String) (check : Datum → Checked α) : Checked (Option α) :=
  field d key none fun v => (check v).map some

/-- The settings of a user. -/
def userSettings (d : Datum) : Checked UserSettings :=
  (both (given d UserSettings.folderKey text)
    (both (given d UserSettings.libPathKey optionalText)
      (given d UserSettings.levelKey level))).map
    fun (folder, libPath, level) => ⟨folder, libPath, level⟩

end Validation

/-! ### Reading -/

/-- What is said of a settings file that is malformed. -/
def malformedReason : String := "<yaml>"

/-- The datum of a settings file, which is read piece by piece. -/
def readSettingsFile (path : String) (content : Files.Content) : Except Failure Datum :=
  match content.readInPieces with
  | .error flaw => .error (.undecodable flaw)
  | .ok text =>
    match Yaml.read text with
    | .ok d => .ok d
    | .error .malformed => .error (.fault (.configParse path malformedReason))
    | .error (.impossible message) => .error (.argument message)

/-- The settings that the datum of a user's file gives. An empty datum gives none. -/
def UserSettings.ofDatum (path : String) (d : Datum) : Except Failure UserSettings :=
  if d.isEmpty then .ok .standard
  else
    match d with
    | .table _ => Validation.asFault (Validation.userSettings d)
    | .mapping _ => .error .keysNotText
    | _ => .error (.fault (.configParse path "top level must be a mapping"))

/-- Reads the settings of a user from the file at a path. A file that is not there gives none. -/
def UserSettings.load (disk : Files.Disk) (path : String) : Except Failure UserSettings :=
  match disk.has path with
  | .error refusal => .error (.refused refusal)
  | .ok false => .ok .standard
  | .ok true =>
    match disk.content path with
    | .error refusal => .error (.refused refusal)
    | .ok content => (readSettingsFile path content).bind (ofDatum path)

end AnchorIndex
