import AnchorIndex.CommandLine.Arguments
import AnchorIndex.CommandLine.Host
import AnchorIndex.CommandLine.Report
import AnchorIndex.Log.Journal
import AnchorIndex.Session.Resolve

/-!
# Carrying out commands

`run` carries out the command that arguments give, and answers how it ended: the exit status is
zero when it was done, one when it failed, and two when it was misused. Failures that a reader can
do something about are reported on the error stream.
-/

namespace AnchorIndex.CommandLine

open Session (onStore)

/-! ### Setting up an index -/

/-- The text of the file that keeps the documents out of version control. -/
def ignoreText : String :=
  "# Metadata documents are regenerated by 'anchorscan scan'\nmetadata/\n*.tmp\n"

/-- Makes the folder of an index, with the settings of the user in it. -/
def makeIndex (index : String) (u : UserSettings) : Action Unit := do
  change fun disk => disk.makeFolder index
  change fun disk => disk.write (Files.joinPath index "config.yaml") (.text u.render)
  change fun disk => disk.write (Files.joinPath index ".gitignore") (.text ignoreText)

/-- Scans a workspace whose index is set up. -/
def firstScan (root : String) : Action Unit := do
  let s ← openAt root
  onScreen (Screen.spinner 0 "Scanning program")
  let (summary, _) ← s.run Session.scan
  onScreen do
    showSummary summary
    Screen.print ""
    Screen.status .success 0 ("Config created at " ++ UserSettings.file)

/-- Sets up the index of a workspace, unless it is there. -/
def init (path : String) (force : Bool) (folder libPath : Option String) : Action Unit := do
  let path ← existingFolder path
  let root := Files.pathOf (← lift (Workspace.realPlace (← get).disk path))
  let index := Files.joinPath root indexFolder
  let isThere ← unlessRefused ((← get).disk.has index)
  if isThere && !force then
    onScreen do
      Screen.status .info 0 ("Already initialized: " ++ index)
      Screen.status .info 0 "Use --force to reinitialize"
  else
    onScreen do
      Screen.print ""
      Screen.status .plain 0 ("Initializing anchorscan in " ++ root)
      Screen.print ""
    if isThere then change fun disk => disk.removeFolder index
    makeIndex index ⟨some (folder.getD ProgramSettings.standard.folder), some libPath, none⟩
    firstScan root

/-! ### Scanning -/

/-- Resolves the calls of all functions, and answers how many bodies were searched. -/
def resolveFunctions (s : Opened) : Action Nat := do
  let (functions, s) ← s.run (onStore (Store.query .function none none))
  let total : Int := functions.length
  onScreen (Screen.progressStarts (some "Resolving") (some total))
  let (_, s) ← s.run (Session.resolveEach functions)
  onScreen (Screen.progressDone (some "Resolving") (some total))
  return s.state.parsed

/-- Logs events where the settings of a session want them. -/
def useLog (s : Opened) : Action Opened := do
  let log := s.state.settings.logging
  modify fun h => { h with log := log }
  change (Journal.makeFiles log)
  return s.onDisk (← get).disk

/-- Scans a workspace, and resolves calls if that is asked for. -/
def scan (verbose : Bool) (repo : Option String) (deps : Bool) : Action Unit := do
  let s ← openAt (← workspaceOf repo)
  let s ← if verbose then pure s else useLog s
  let (summary, s) ← task "Scanning program" (s.run Session.scan)
  onScreen (showSummary summary)
  if deps then
    let bodies := Terminal.counted (← resolveFunctions s) "function body" (some "function bodies")
    onScreen (Screen.status .success 0 ("Resolved " ++ bodies))

/-! ### Reading the index -/

/-- The role of a kind that an option names; an empty name means any role. -/
def roleOption (kind : Kind) (name : Option String) : Action (Option Role) :=
  match name.filter (· != "") with
  | none => return none
  | some name =>
    match kind.role? name with
    | some r => return some r
    | none =>
      throw (.misuse (some ("Invalid value for --subtype: " ++ Text.quote name ++ " is not a " ++
        kind.label ++ " subtype (expected one of: " ++
        ", ".intercalate (kind.roles.map (·.label)) ++ ")")))

/-- Lists the entities of a kind. -/
def query (kind : Kind) (name role repo : Option String) (json : Bool) : Action Unit := do
  match repo with
  | some given => let _ ← existingFolder given
  | none => pure ()
  let role ← roleOption kind role
  let s ← openAt (← workspaceOf repo)
  let (entities, _) ← s.run (onStore (Store.query kind name role))
  onScreen <|
    if json then answerJson (.list (entities.map (·.toDatum)))
    else if entities.isEmpty then
      Screen.status .info 0 ("No " ++ kind.label ++ " entities match")
    else (entityTable entities).print

/-- Shows one entity. -/
def showOne (id : String) (repo : Option String) (json : Bool) : Action Unit := do
  let s ← openAt (← workspaceOf repo)
  let (found, _) ← s.run do
    let e ← onStore (Store.read id)
    return (e, String.ofList (← Session.content e))
  let (e, content) := found
  onScreen (if json then answerJson (entityWithContent e content) else showEntity e content)

/-- The dependency records of the function with an identity, or of the functions with a name. -/
def recordsOf (target : String) : Session.Action (List CallGraph.Record) := do
  match ← onStore (Store.find? target) with
  | some e =>
    if e.kind = .function then return [← Session.resolve e.id]
    else Session.resolveNamed target
  | none => Session.resolveNamed target

/-- The entities with some identities. -/
def readEach : List String → Session.Action (List Entity)
  | [] => return []
  | id :: rest => do
    let e ← onStore (Store.read id)
    return e :: (← readEach rest)

/-- Dependency records with their internal dependencies looked up. -/
def viewEach : List CallGraph.Record → Session.Action (List DependencyView)
  | [] => return []
  | r :: rest => do
    let internal ← readEach r.internal
    return ⟨r, internal⟩ :: (← viewEach rest)

/-- Shows the dependencies of functions. -/
def deps (target : String) (repo : Option String) (json : Bool) : Action Unit := do
  let s ← openAt (← workspaceOf repo)
  let (records, s) ← s.run (recordsOf target)
  if records.isEmpty then
    throw (.failure (.usage ("No function named or identified by " ++ Text.quote target)))
  else
    let (views, _) ← s.run (viewEach records)
    onScreen <|
      if json then answerJson (.list (views.map (·.toDatum)))
      else answerLines (views.flatMap (·.lines))

/-- Shows an entrypoint. -/
def entrypoint (name : String) (repo : Option String) (json : Bool) : Action Unit := do
  let s ← openAt (← workspaceOf repo)
  let (view, _) ← s.run (Session.entrypoint name)
  onScreen (if json then answerJson view.toDatum else showEntrypoint view)

/-! ### All commands -/

/-- Carries out a command. -/
def carryOut (i : Invocation) : Action Unit :=
  match i.command with
  | .version => onScreen (Screen.answer "anchorscan, version 0.1.0")
  | .init path force folder libPath => init path force folder libPath
  | .scan repo deps => scan i.verbose repo deps
  | .query kind name role repo json => query kind name role repo json
  | .showEntity id repo json => showOne id repo json
  | .deps target repo json => deps target repo json
  | .entrypoint name repo json => entrypoint name repo json

/-- How a command ended: the exit status, what it wrote to the two streams, and a failure that it
did not report. -/
structure Outcome where
  exit : Nat
  output : String
  errors : String
  unreported : Option Failure

/-- What is reported of a failure, unless it comes unexpected. -/
def report? : Failure → Option String
  | .fault f => some ("Error: " ++ f.report.line ++ "\n")
  | .usage message => some ("Error: " ++ message ++ "\n")
  | _ => none

/-- What a command wrote, and how it ended. -/
def Outcome.of (result : Except Stop Unit) (screen : Screen) : Outcome :=
  match result with
  | .ok _ => ⟨0, screen.output, screen.errors, none⟩
  | .error (.misuse report) => ⟨2, screen.output, (report.map ("Error: " ++ ·)).getD "", none⟩
  | .error (.failure f) =>
    match report? f with
    | some report => ⟨1, screen.output, screen.errors ++ report, none⟩
    | none => ⟨1, screen.output, screen.errors, some f⟩

/-- How events are logged before a command asks for something else. -/
def firstLog (verbose : Bool) : LogSettings :=
  .single (if verbose then .debug else .warning) .console

/-- Carries out the command that arguments give on a blank screen. -/
def run (arguments : List String) (h : Host) : Outcome × Host :=
  match Invocation.ofArguments? arguments with
  | none => (⟨2, "", "", none⟩, { h with screen := .blank })
  | some i =>
    let (result, h) := (carryOut i).run.run
      { h with screen := .blank, log := firstLog i.verbose }
    (.of result h.screen, h)

end AnchorIndex.CommandLine
