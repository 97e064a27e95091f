import AnchorIndex.Files.Disk
import AnchorIndex.Settings.Integer
import AnchorIndex.Settings.Model

/-!
# Checking settings

Settings come as data and are checked against what each setting can be. All values that are
rejected are reported, in the order of the settings, each with its location. Keys that no setting
has are passed over, except at the top. A path that starts at the home of somebody who has none
ends the check at once.
-/

namespace AnchorIndex.Validation

open Files (Place)

/-- Why a check fails. -/
inductive Objection where
  | rejected (rejections : List Rejection)
  | homeless

/-- Both objections. -/
def Objection.and : Objection → Objection → Objection
  | rejected rs, rejected ss => rejected (rs ++ ss)
  | _, _ => homeless

/-- A checked value, or the objection to it. -/
abbrev Checked (α : Type) : Type := Except Objection α

/-- A value that is rejected where it stands. -/
def reject {α : Type} (message : String) (input : Datum) : Checked α :=
  .error (.rejected [⟨[], message, input⟩])

/-- A value that the rule of a setting forbids. -/
def forbid {α : Type} (message : String) (input : Datum) : Checked α :=
  reject ("Value error, " ++ message) input

/-- Two checked values, or the objections to both. -/
def both {α β : Type} (a : Checked α) (b : Checked β) : Checked (α × β) :=
  match a, b with
  | .ok x, .ok y => .ok (x, y)
  | .error o, .ok _ => .error o
  | .ok _, .error o => .error o
  | .error o, .error p => .error (o.and p)

/-- The rejections of a part of a value, with its key in front of their locations. -/
def within {α : Type} (key : String) : Checked α → Checked α
  | .error (.rejected rs) =>
    .error (.rejected (rs.map fun r => { r with location := key :: r.location }))
  | c => c

/-- The value under a key of a table, or its default when the key is not there. -/
def field {α : Type} (d : Datum) (key : String) (default : α) (check : Datum → Checked α) :
    Checked α :=
  match d.get? key with
  | none => .ok default
  | some v => within key (check v)

/-- All values of a list, or the rejections of all. -/
def collect {α : Type} : List (Checked α) → Checked (List α)
  | [] => .ok []
  | c :: r => (both c (collect r)).map fun (a, as) => a :: as

/-! ### Simple values -/

/-- A text. -/
def text (d : Datum) : Checked String :=
  match d with
  | .text s => .ok s
  | d => reject "Input should be a valid string" d

/-- A text or null. -/
def optionalText (d : Datum) : Checked (Option String) :=
  match d with
  | .null => .ok none
  | d => (text d).map some

/-- The texts of a choice, as they are listed in a report. -/
def choices : List String → String
  | [] => ""
  | [a] => inQuotes a
  | [a, b] => inQuotes a ++ " or " ++ inQuotes b
  | a :: r => inQuotes a ++ ", " ++ choices r

/-- One of some values, named by a text. -/
def choice {α : Type} (label : α → String) (all : List α) (d : Datum) : Checked α :=
  let found : Option α :=
    match d with
    | .text s => all.find? fun a => label a == s
    | _ => none
  match found with
  | some a => .ok a
  | none => reject ("Input should be " ++ choices (all.map label)) d

/-- A list whose items are checked, each with its index in the location. -/
def list {α : Type} (check : Datum → Checked α) (d : Datum) : Checked (List α) :=
  match d with
  | .list items =>
    collect ((items.zipIdx).map fun (item, i) => within (toString i) (check item))
  | d => reject "Input should be a valid list" d

/-- An integer. -/
def integer (d : Datum) : Checked Int :=
  match integerOf d with
  | .ok n => .ok n
  | .error flaw => reject flaw.message d

/-! ### Sections -/

/-- A table that is checked as a section with a name. -/
def model {α : Type} (name : String) (check : Datum → Checked α) (d : Datum) : Checked α :=
  if d.isTable then check d
  else reject ("Input should be a valid dictionary or instance of " ++ name) d

/-- The folders of the users that a system has from the start; without a name the superuser is
meant. -/
def homes : List (String × String) :=
  [("~", "/root"), ("~root", "/root"), ("~daemon", "/usr/sbin"), ("~bin", "/bin"), ("~sys", "/dev"),
   ("~sync", "/bin"), ("~games", "/usr/games"), ("~man", "/var/cache/man"),
   ("~lp", "/var/spool/lpd"), ("~mail", "/var/mail"), ("~news", "/var/spool/news"),
   ("~uucp", "/var/spool/uucp"), ("~proxy", "/bin"), ("~www-data", "/var/www"),
   ("~backup", "/var/backups"), ("~list", "/var/list"), ("~irc", "/run/ircd"),
   ("~_apt", "/nonexistent"), ("~nobody", "/nonexistent")]

/-- A path with the folder of a user in the place of a tilde, with which it may start. -/
def fromHome? (path : String) : Option String :=
  match Place.ofText path with
  | [] => some path
  | name :: rest =>
    if path.startsWith "/" || !name.startsWith "~" then some path
    else (homes.lookup name).map fun home => Files.joinPath home (Place.text rest)

/-- Where events go: to a stream, or to a file given by its whole path. -/
def destination (d : Datum) : Checked String :=
  match text d with
  | .error o => .error o
  | .ok s =>
    if s = "stderr" ∨ s = "stdout" then .ok s
    else
      match fromHome? s with
      | none => .error .homeless
      | some path =>
        if path.startsWith "/" then .ok (Files.normalPath path)
        else forbid ("File destination must be absolute path: " ++ s) d

/-- A level. -/
def level : Datum → Checked Level :=
  choice Level.label Level.all

/-- A level or null. -/
def optionalLevel (d : Datum) : Checked (Option Level) :=
  match d with
  | .null => .ok none
  | d => (level d).map some

/-- A log output. -/
def logOutput : Datum → Checked LogOutput :=
  model "LogOutputConfig" fun d =>
    (both (field d "format" LogFormat.console (choice LogFormat.label LogFormat.all))
      (both (field d "destination" "stderr" destination)
        (field d "level" none optionalLevel))).map
      fun (format, destination, level) => ⟨format, destination, level⟩

/-- The logging section. -/
def logSettings : Datum → Checked LogSettings :=
  model "LoggingConfig" fun d =>
    (both (field d "level" LogSettings.standard.level level)
      (field d "outputs" LogSettings.standard.outputs (list logOutput))).map
      fun (level, outputs) => ⟨level, outputs⟩

/-- A folder below the top folder of a workspace. -/
def relativeFolder (d : Datum) : Checked String :=
  match text d with
  | .error o => .error o
  | .ok s =>
    if s.startsWith "/" then forbid ("program_dir must be relative to the repo root: " ++ s) d
    else .ok s

/-- The program section. -/
def programSettings : Datum → Checked ProgramSettings :=
  model "ProgramConfig" fun d =>
    (both (field d "program_dir" ProgramSettings.standard.folder relativeFolder)
      (field d "program_lib_path" none optionalText)).map
      fun (folder, libPath) => ⟨folder, libPath⟩

/-- The metadata section. -/
def metadataSettings : Datum → Checked MetadataSettings :=
  model "MetadataConfig" fun d =>
    (field d "metadata_dir" MetadataSettings.standard.folder text).map fun folder => ⟨folder⟩

/-- A positive number. -/
def positive (d : Datum) : Checked Int :=
  match integer d with
  | .error o => .error o
  | .ok n =>
    if n ≤ 0 then forbid ("max_file_size_mb must be positive, got " ++ toString n) d else .ok n

/-- An extension with its point. -/
def withPoint (s : String) : String :=
  if s.startsWith "." then s else "." ++ s

/-- The scan section. -/
def scanSettings : Datum → Checked ScanSettings :=
  model "ScanConfig" fun d =>
    (both (field d "extensions" ScanSettings.standard.extensions fun v =>
        (list text v).map (·.map withPoint))
      (both (field d "max_file_size_mb" ScanSettings.standard.maxMegabytes positive)
        (field d "kinds" ScanSettings.standard.kinds (list (choice Kind.label Kind.all))))).map
      fun (extensions, maxMegabytes, kinds) => ⟨extensions, maxMegabytes, kinds⟩

/-- The sections of the settings. -/
def sections (d : Datum) : Checked Settings :=
  (both (field d "logging" .standard logSettings)
    (both (field d "program" .standard programSettings)
      (both (field d "metadata" .standard metadataSettings)
        (field d "scan" .standard scanSettings)))).map
    fun (logging, program, metadata, scan) => ⟨logging, program, metadata, scan⟩

/-- The settings, where other keys are passed over. -/
def settings : Datum → Checked Settings :=
  model "AnchorScanConfig" sections

/-- The keys of the sections. -/
def sectionKeys : List String :=
  ["logging", "program", "metadata", "scan"]

/-- The settings, where other keys are rejected. -/
def strictSettings (d : Datum) : Checked Settings :=
  let extras : List Rejection :=
    d.entries.filterMap fun (key, v) =>
      if sectionKeys.contains key then none
      else some ⟨[key], "Extra inputs are not permitted", v⟩
  match sections d with
  | .ok s => if extras.isEmpty then .ok s else .error (.rejected extras)
  | .error o => .error (o.and (.rejected extras))

/-- The first rejection as a fault of the configuration. -/
def asFault {α : Type} : Checked α → Except Failure α
  | .ok a => .ok a
  | .error (.rejected (r :: _)) =>
    .error (.fault (.configInvalid (".".intercalate r.location) r.input r.message))
  | .error (.rejected []) => .error (.rejected [])
  | .error .homeless => .error .homeless

/-- All rejections as a failure. -/
def asFailure {α : Type} : Checked α → Except Failure α
  | .ok a => .ok a
  | .error (.rejected rs) => .error (.rejected rs)
  | .error .homeless => .error .homeless

end AnchorIndex.Validation
