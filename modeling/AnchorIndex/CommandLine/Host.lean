import AnchorIndex.Session.Basic
import AnchorIndex.Settings.Load
import AnchorIndex.Terminal.Table
import AnchorIndex.Workspace

/-!
# What commands work on

A command works on a disk from its present folder, mints identities, and writes to a screen
(`Host`). It ends by being done, by a failure, or because it is misused (`Stop`). What it changed
before it failed stays changed.
-/

namespace AnchorIndex.CommandLine

open Files (Disk Refusal)

/-- The state on which commands work. -/
structure Host where
  disk : Disk
  mint : Store.Mint
  sources : SettingsSources
  screen : Screen
  log : LogSettings

/-- Why a command ends before it is done. -/
inductive Stop where
  | failure (f : Failure)
  | misuse (report : Option String)

/-- A step of a command. -/
abbrev Action (α : Type) : Type := ExceptT Stop (StateM Host) α

/-- A result, or a failure. -/
def lift {α : Type} : Except Failure α → Action α
  | .ok a => pure a
  | .error f => throw (.failure f)

/-- An answer of the disk, or a failure. -/
def unlessRefused {α : Type} (answer : Except Refusal α) : Action α :=
  lift (answer.mapError .refused)

/-- Carries out a change of the disk. -/
def change (f : Disk → Except Refusal Disk) : Action Unit := do
  let disk ← unlessRefused (f (← get).disk)
  modify fun h => { h with disk := disk }

/-- An operation of the screen as a step of a command. -/
def onScreen {α : Type} (a : Screen.Action α) : Action α := do
  let (result, screen) := a.run.run (← get).screen
  modify fun h => { h with screen := screen }
  lift result

/-- Carries out a step as a task that is shown on the screen. -/
def task {α : Type} (name : String) (body : Action α) : Action α := do
  onScreen (Screen.taskStarts name)
  let result ←
    tryCatch body fun stop => do
      match stop with
      | .failure f => onScreen (Screen.taskFailed name f.message)
      | .misuse _ => pure ()
      throw stop
  onScreen (Screen.taskDone name)
  return result

/-! ### Folders -/

/-- The path of a folder that is given, which has to be there. -/
def existingFolder (given : String) : Action String := do
  let disk := (← get).disk
  let path := disk.path given
  if !Files.isPath given then throw (.failure (.refused .noPath))
  else
    match disk.hasFolder path with
    | .ok true => if given = "" then throw (.misuse none) else return path
    | _ => throw (.misuse none)

/-- The path of the workspace around a folder that is given, or around the present one. -/
def workspaceOf (given : Option String) : Action String := do
  match given with
  | none =>
    let disk := (← get).disk
    lift (Workspace.locate disk disk.folder disk.folder)
  | some given =>
    let path ← existingFolder given
    lift (Workspace.locate (← get).disk path (Files.shownPath given))

/-! ### Sessions -/

/-- A session on a workspace. -/
structure Opened where
  state : Session.State

/-- The session on a disk that has changed. -/
def Opened.onDisk (s : Opened) (disk : Disk) : Opened :=
  let store := s.state.store
  ⟨{ s.state with store := { store with disk := disk.seenFrom store.disk.folder } }⟩

/-- Opens a session on the workspace at a path. -/
def openAt (path : String) : Action Opened := do
  let h ← get
  let disk := h.disk.seenFrom path
  let settings ← lift (Settings.load disk h.sources)
  return ⟨.start disk h.mint settings⟩

/-- Carries out an operation of a session, and answers the session after it. -/
def Opened.run {α : Type} (s : Opened) (a : Session.Action α) : Action (α × Opened) := do
  let (result, state) := a.run.run s.state
  modify fun h =>
    { h with
      disk := state.store.disk.seenFrom h.disk.folder
      mint := state.store.mint }
  return (← lift result, ⟨state⟩)

end AnchorIndex.CommandLine
