import AnchorIndex.Exchange
import AnchorIndex.Files.Disk

/-!
# Settings

The settings of a workspace have four sections: what is logged, where the program is, where the
documents are, and what a scan looks for. Each setting has a default.

The documents of a workspace are in the metadata folder. The library file of the program is the
one that is configured, or else the only file `src/lib.rs` in a folder of the program folder.
-/

namespace AnchorIndex

/-- How important a logged event is. -/
inductive Level where
  | debug
  | info
  | warning
  | error
  | critical
  deriving DecidableEq, Repr

namespace Level

/-- All levels, in increasing order. -/
def all : List Level :=
  [debug, info, warning, error, critical]

/-- The name of a level. -/
def label : Level → String
  | debug => "DEBUG"
  | info => "INFO"
  | warning => "WARNING"
  | error => "ERROR"
  | critical => "CRITICAL"

/-- The rank of a level. -/
def rank : Level → Nat
  | debug => 10
  | info => 20
  | warning => 30
  | error => 40
  | critical => 50

end Level

/-- How a log is written. -/
inductive LogFormat where
  | json
  | console
  deriving DecidableEq, Repr

namespace LogFormat

/-- All formats. -/
def all : List LogFormat :=
  [json, console]

/-- The name of a format. -/
def label : LogFormat → String
  | json => "json"
  | console => "console"

end LogFormat

/-- One place to which events are written. Without a level of its own it takes that of the
whole log. -/
structure LogOutput where
  format : LogFormat
  destination : String
  level : Option Level
  deriving DecidableEq, Repr

/-- What is logged, and where to. -/
structure LogSettings where
  level : Level
  outputs : List LogOutput
  deriving DecidableEq, Repr

/-- Where the program is: the folder of its sources, and its library file unless that is to be
looked for. -/
structure ProgramSettings where
  folder : String
  libPath : Option String
  deriving DecidableEq, Repr

/-- Where the documents are. -/
structure MetadataSettings where
  folder : String
  deriving DecidableEq, Repr

/-- What a scan looks for. -/
structure ScanSettings where
  extensions : List String
  maxMegabytes : Int
  kinds : List Kind
  deriving DecidableEq, Repr

/-- The settings of a workspace. -/
structure Settings where
  logging : LogSettings
  program : ProgramSettings
  metadata : MetadataSettings
  scan : ScanSettings
  deriving DecidableEq, Repr

/-! ### Defaults -/

/-- The folder of the index in a workspace. -/
def indexFolder : String := ".anchorscan"

/-- Events go to the error stream by default. -/
def LogOutput.standard : LogOutput := ⟨.console, "stderr", none⟩

/-- The default of the logging section. -/
def LogSettings.standard : LogSettings := ⟨.info, [.standard]⟩

/-- The default of the program section. -/
def ProgramSettings.standard : ProgramSettings := ⟨"programs", none⟩

/-- The default of the metadata section. -/
def MetadataSettings.standard : MetadataSettings := ⟨".anchorscan/metadata"⟩

/-- The default of the scan section. -/
def ScanSettings.standard : ScanSettings := ⟨[".rs"], 5, Kind.all⟩

/-- The default settings. -/
def Settings.standard : Settings := ⟨.standard, .standard, .standard, .standard⟩

/-! ### Settings as data -/

/-- A log output as a table. -/
def LogOutput.toDatum (o : LogOutput) : Datum :=
  .table
    [("format", .text o.format.label),
      ("destination", .text o.destination),
      ("level", .ofText? (o.level.map (·.label)))]

/-- The logging section as a table. -/
def LogSettings.toDatum (s : LogSettings) : Datum :=
  .table [("level", .text s.level.label), ("outputs", .list (s.outputs.map (·.toDatum)))]

/-- The program section as a table. -/
def ProgramSettings.toDatum (s : ProgramSettings) : Datum :=
  .table [("program_dir", .text s.folder), ("program_lib_path", .ofText? s.libPath)]

/-- The metadata section as a table. -/
def MetadataSettings.toDatum (s : MetadataSettings) : Datum :=
  .table [("metadata_dir", .text s.folder)]

/-- The scan section as a table. -/
def ScanSettings.toDatum (s : ScanSettings) : Datum :=
  .table
    [("extensions", .ofTexts s.extensions),
      ("max_file_size_mb", .int s.maxMegabytes),
      ("kinds", .ofTexts (s.kinds.map (·.label)))]

/-- The settings as a table. -/
def Settings.toDatum (s : Settings) : Datum :=
  .table
    [("logging", s.logging.toDatum),
      ("program", s.program.toDatum),
      ("metadata", s.metadata.toDatum),
      ("scan", s.scan.toDatum)]

end AnchorIndex

namespace AnchorIndex.Settings

open Files (Disk Place)

/-! ### Paths that settings name -/

/-- The path of the folder of documents. -/
def metadataPath (s : Settings) (disk : Disk) : String :=
  disk.path s.metadata.folder

/-- The path of a library file from the folder of its program. -/
def libInProgram : String := "src/lib.rs"

/-- The paths of library files in the folders of the program folder, in order. -/
def libCandidates (s : Settings) (disk : Disk) : Except Files.Refusal (List String) := do
  match ← disk.find? (disk.path s.program.folder) with
  | some (.folder entries) =>
    let names := (entries.map (·.1)).mergeSort fun a b => a ≤ b
    let folder := Files.normalPath s.program.folder
    let paths := names.map fun n => Files.joinPath (Files.joinPath folder n) libInProgram
    return paths.filter fun p => disk.tree.has (Place.ofText (disk.path p))
  | _ => return []

/-- The path of the program's library file from the present folder, if there is one. A configured
file has to be there. -/
def libPath? (s : Settings) (disk : Disk) : Except Failure (Option String) :=
  match s.program.libPath.filter (· != "") with
  | some configured =>
    let path := disk.path configured
    match disk.hasFile path with
    | .error refusal => .error (.refused refusal)
    | .ok true => .ok (some (Files.shownPath configured))
    | .ok false => .error (.fault (.configFileMissing path))
  | none =>
    match s.libCandidates disk with
    | .error refusal => .error (.refused refusal)
    | .ok [path] => .ok (some path)
    | .ok _ => .ok none

end AnchorIndex.Settings
