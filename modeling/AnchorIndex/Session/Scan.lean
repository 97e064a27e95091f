import AnchorIndex.Account.Listing
import AnchorIndex.Entity.Classification
import AnchorIndex.Entity.Enclosing
import AnchorIndex.Files.Walk
import AnchorIndex.Session.Basic

/-!
# Scanning a workspace

A scan walks the sources of the program, finds the constructs of each configured kind, gives them
their roles and enclosing blocks, and stores them in the place of those that were there. Then it
builds the records of implementations and of accounts structs from what is stored, and forgets
the dependencies of functions. `Summary` tells what it found.
-/

namespace AnchorIndex.Session

open Files (SourceFile Walk)

/-- What a scan found. -/
structure Summary where
  filesScanned : Nat
  byKind : List (Kind × Nat)
  implementations : Nat
  accountStructs : Nat
  libPath : Option String
  entrypoints : List String
  skipped : List String
  errors : List String

/-- The text of a walked file. -/
def textAt? (files : List SourceFile) (path : String) : Option String :=
  (files.find? (·.path == path)).map (·.text)

/-- What is known about the program, given the walked files. -/
def program (files : List SourceFile) : Action Program := do
  let s ← get
  match ← lift (s.settings.libPath? s.store.disk) with
  | none => return .unknown
  | some path =>
    match textAt? files path with
    | some text => return ⟨some path, Source.entrypoints text⟩
    | none =>
      let lines ← sourceLines path
      return ⟨some path, Source.entrypoints (String.ofList (Text.unlines lines))⟩

/-- The range of a construct as an entity without identity. The lines of a range are lines. -/
def entityOfRange? (role : Role) (path : String) (r : Source.Range) : Option Entity :=
  Entity.ofLines? role path r.name r.first r.last "" none

/-- The constructs of a kind in one file. -/
def scanFile (kind : Kind) (program : Program) (file : SourceFile) : List Entity :=
  let lines := Text.lines file.text.toList
  (Source.scan kind file.text).filterMap fun r =>
    entityOfRange? (roleOf kind file.path r lines program) file.path r

/-- The constructs of a kind in all files. -/
def scanKind (files : List SourceFile) (program : Program) (kind : Kind) : List Entity :=
  files.flatMap (scanFile kind program)

/-- The kinds without repetitions. -/
def distinctKinds (kinds : List Kind) : List Kind :=
  kinds.eraseDups

/-- The constructs of the configured kinds in all files, with their enclosing blocks. -/
def scanKinds (files : List SourceFile) (program : Program) (kinds : List Kind) : Scanned :=
  assignEnclosing ((distinctKinds kinds).map fun k => (k, scanKind files program k))

/-- Stores what was found for each of some kinds. -/
def storeScanned (scanned : Scanned) : List Kind → Action Unit
  | [] => return ()
  | kind :: rest => do
    let _ ← onStore (Store.replaceAll kind (scanned.ofKind kind))
    storeScanned scanned rest

/-- The trait definitions under their names, of several with one name the last one. -/
def definitionsByName (traits : List Entity) : List (String × Entity) :=
  mergeRepeated (traits.map fun t => (t.name, t))

/-- Builds the records of all stored implementations, and answers their number. -/
def rebuildImplementations : Action Nat := do
  let functions ← onStore (Store.all .function)
  let traits ← onStore (Store.query .trait none (some .traitDefinition))
  let blocks ← onStore (Store.all .implementation)
  let records ←
    lift (blocks.mapM fun b =>
      Implementation.Record.buildChecked b functions (definitionsByName traits))
  onStore (Store.replaceImplementations records)
  return records.length

/-- The lines of a file: as it was walked, or else as it is read. -/
def linesAt (files : List SourceFile) (path : String) : Action (List (List Char)) :=
  match textAt? files path with
  | some text => return Text.lines text.toList
  | none => sourceLines path

/-- The records of accounts structs. -/
def accountsRecordsOf (files : List SourceFile) : List Entity → Action (List Account.Record)
  | [] => return []
  | e :: rest => do
    let lines ← linesAt files e.path
    match Account.fields (excerpt lines e.first e.last) with
    | .error chunk => throw (.argument (Account.noDeclaration chunk))
    | .ok fields => return ⟨e.id, e.name, fields⟩ :: (← accountsRecordsOf files rest)

/-- Builds the records of all stored accounts structs, and answers their number. -/
def rebuildAccounts (files : List SourceFile) : Action Nat := do
  let structs ← onStore (Store.query .struct none (some .contextAccounts))
  let records ← accountsRecordsOf files structs
  onStore (Store.replaceAccounts records)
  return records.length

/-- Scans the workspace. -/
def scan : Action Summary := do
  forget
  let s ← get
  let scan := s.settings.scan
  let found ← lift <|
    (Files.walk s.store.disk s.settings.program.folder scan.extensions scan.maxMegabytes).mapError
      .refused
  let known ← program found.files
  let kinds := scan.kinds
  let scanned := scanKinds found.files known kinds
  storeScanned scanned kinds
  onStore Store.clearDependencies
  let implementations ← rebuildImplementations
  let accountStructs ← rebuildAccounts found.files
  return {
    filesScanned := found.files.length
    byKind := scanned.map fun (k, es) => (k, es.length)
    implementations := implementations
    accountStructs := accountStructs
    libPath := known.libPath
    entrypoints := known.entrypoints.map (·.name)
    skipped := found.skippedLarge
    errors := found.errors }

end AnchorIndex.Session
