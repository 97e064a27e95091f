import AnchorIndex.CommandLine.Run
import AnchorIndex.Log.Journal

/-!
# The program

The program reads the files around the present folder, carries out the command that its arguments
give, and writes back the files of the index that have changed.
-/

namespace AnchorIndex.Program

open CommandLine (Host)
open Files (Content Disk Node Place)

/-! ### Reading files -/

/-- Folders at the top that hold no sources. -/
def passedOver : List String :=
  [".git", "target", "node_modules"]

/-- The path that a path means, through links. -/
def realPath (path : String) : IO String := do
  try
    return (← IO.FS.realPath path).toString
  catch _ => return path

/-- Reads what a folder holds, down to a depth. What cannot be read counts as empty, and links to
folders are not followed. -/
def readFolder (fuel : Nat) (path : String) (omitted : List String) :
    IO (List (String × Node)) := do
  match fuel with
  | 0 => return []
  | fuel + 1 =>
    let real ← realPath path
    let entries ← (← IO.FS.realPath path).readDir
    let names := (entries.toList.map (·.fileName)).filter fun n => !omitted.contains n
    names.mapM fun name => do
      let below := path ++ "/" ++ name
      let node ←
        try
          pure (Node.file (.ofBytes (← IO.FS.readBinFile below)))
        catch _ =>
          try
            let target ← realPath below
            if target = real ++ "/" ++ name then
              pure (Node.folder (← readFolder fuel below []))
            else pure (Node.link target)
          catch _ => pure (Node.file (.text ""))
      return (name, node)

/-- The greatest depth of folders that is read. -/
def maxDepth : Nat := 64

/-- The tree with the folder at a path read into it. -/
def readInto (tree : Node) (path : String) : IO Node := do
  let node := Node.folder (← readFolder maxDepth path passedOver)
  return node.insert (Place.ofText path) (some tree)

/-- The paths from the present folder up to the top. -/
def foldersAbove (path : String) : List String :=
  (Workspace.around (Place.ofText path)).map Files.pathOf

/-- The folder has an entry. -/
def hasEntry (path name : String) : IO Bool := do
  try
    let _ ← IO.FS.realPath (path ++ "/" ++ name)
    return (← (← IO.FS.realPath path).readDir).any (·.fileName == name)
  catch _ => return false

/-- The path of the workspace around a folder, or the path of the folder itself. -/
def topFolder (path : String) : IO String := do
  for candidate in foldersAbove path do
    for marker in Workspace.markers do
      if ← hasEntry candidate marker then return candidate
  return path

/-- The path of the folder that an argument names, if there is one. -/
def folderNamed? (argument : String) : IO (Option String) := do
  try
    let path ← IO.FS.realPath argument
    return if ← path.isDir then some path.toString else none
  catch _ => return none

/-- Reads the workspaces around the present folder and around some others. -/
def readDisk (path : String) (others : List String) : IO Disk := do
  let tops ← (path :: others).mapM topFolder
  return ⟨path, ← tops.eraseDups.foldlM readInto .empty⟩

/-! ### Writing files -/

/-- The files below a node, with their places. -/
def filesOf (place : Place) : Nat → Node → List (Place × Content)
  | _, .file content => [(place, content)]
  | _, .link _ => []
  | 0, .folder _ => []
  | fuel + 1, .folder entries =>
    entries.flatMap fun (name, node) => filesOf (place ++ [name]) fuel node

/-- The bytes of a file. -/
def bytesOf : Content → ByteArray
  | .text s => s.toUTF8
  | .bytes b => b

/-- The places of an index, of which a program may have several. -/
def isOfIndex (place : Place) : Bool :=
  place.contains indexFolder

/-- Writes the files of the index that have changed, and removes those that are gone. -/
def writeBack (before after : Disk) : IO Unit := do
  let old := (filesOf [] maxDepth before.tree).filter (isOfIndex ·.1)
  let new := (filesOf [] maxDepth after.tree).filter (isOfIndex ·.1)
  for (place, _) in old do
    if (new.lookup place).isNone then
      IO.FS.removeFile (Files.pathOf place)
  for (place, content) in new do
    if (old.lookup place).map bytesOf != some (bytesOf content) then
      IO.FS.createDirAll (Files.pathOf place.dropLast)
      IO.FS.writeBinFile (Files.pathOf place) (bytesOf content)

/-! ### The environment -/

/-- The names of the variables that can set something. -/
def variableNames : List String :=
  Environment.sections.flatMap fun s =>
    let front := (Environment.start ++ s.name).toUpper
    front :: s.keys.map fun (key, _) => front ++ Environment.delimiter ++ key.toUpper

/-- The variables that are set. -/
def readEnvironment : IO Environment := do
  let values ← variableNames.mapM fun name => return (name, ← IO.getEnv name)
  return values.filterMap fun (name, value) => value.map fun v => (name, v)

/-- The path of the settings for all workspaces. -/
def commonPath : IO String := do
  return ((← IO.getEnv "HOME").getD "") ++ "/.config/anchorscan/config.yaml"

/-- The content of a file, if it is there. -/
def readFile? (path : String) : IO (Option Content) := do
  try
    return some (.ofBytes (← IO.FS.readBinFile path))
  catch _ => return none

/-- What commands work on. -/
def readHost (path : String) (others : List String) : IO Host := do
  let common ← commonPath
  let sources : SettingsSources :=
    ⟨common, ← readFile? common, ← readEnvironment, .table []⟩
  let mint := Store.Mint.after (← IO.rand 0 (Nat.pow 2 120))
  return ⟨← readDisk path others, mint, sources, .blank, .standard⟩

/-! ### The log -/

/-- Adds a text to the end of a file. -/
def appendTo (path text : String) : IO Unit := do
  let old := ((← readFile? path).map bytesOf).getD .empty
  IO.FS.createDirAll (Files.pathOf (Place.ofText path).dropLast)
  IO.FS.writeBinFile path (old ++ text.toUTF8)

/-- Writes the events of a command where its settings want them. Their time is that of the clock
in milliseconds. -/
def writeLog (h : Host) : IO Unit := do
  let time := toString (← IO.monoMsNow)
  let journal := h.screen.logged.foldr (Journal.record time false) (.start h.log none)
  IO.print (journal.textAt "stdout")
  IO.eprint (journal.textAt "stderr")
  for output in Journal.fileOutputs h.log do
    appendTo output.place (journal.textAt output.place)

end AnchorIndex.Program

/-- Carries out the command that the arguments give. -/
def main (arguments : List String) : IO UInt32 := do
  let folders ← arguments.filterMapM AnchorIndex.Program.folderNamed?
  let before ← AnchorIndex.Program.readHost (← IO.currentDir).toString folders
  let (outcome, after) := AnchorIndex.CommandLine.run arguments before
  AnchorIndex.Program.writeBack before.disk after.disk
  AnchorIndex.Program.writeLog after
  IO.print outcome.output
  IO.eprint outcome.errors
  if let some failure := outcome.unreported then
    IO.eprintln failure.message
  return outcome.exit.toUInt32
