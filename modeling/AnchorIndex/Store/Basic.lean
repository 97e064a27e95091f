import AnchorIndex.Files.Disk
import AnchorIndex.Store.Conversion

/-!
# The store

The store keeps entities and records in the documents of one folder. What it has read or written
once it remembers, so later changes of a document by others do not reach it. Its state (`State`)
is the disk, the folder, the source of new identities and what it remembers.

An operation (`Action`) may fail, and what it did before it failed stays done.
-/

namespace AnchorIndex.Store

/-- The source of new identities: a supply of tokens, of which the first `used` are taken. -/
structure Mint where
  token : Nat → String
  used : Nat

/-- The supply of the numbers after `last` in thirty-two hexadecimal digits. -/
def Mint.after (last : Nat) : Mint :=
  ⟨fun n => Text.hexadecimal 32 (last + n + 1), 0⟩

/-- What the store remembers of its documents, each part from the first time it was needed. -/
structure Memory where
  entities : Kind → Option (List Entity)
  byId : Option (List (String × Entity))
  dependencies : Option (List (String × CallGraph.Record))
  implementations : Option (List (String × Implementation.Record))
  accounts : Option (List (String × Account.Record))

/-- Nothing is remembered yet. -/
def Memory.empty : Memory := ⟨fun _ => none, none, none, none, none⟩

/-- The state of a store. The folder is given by its path. -/
structure State where
  disk : Files.Disk
  folder : String
  mint : Mint
  memory : Memory

/-- An operation of the store. -/
abbrev Action (α : Type) : Type := ExceptT Failure (StateM State) α

/-- The state of a store on the same documents that remembers nothing. -/
def State.reopened (s : State) : State :=
  { s with memory := .empty }

/-- A new identity: the first token that is not taken. -/
def mintId : Action String := do
  let s ← get
  set { s with mint := { s.mint with used := s.mint.used + 1 } }
  return s.mint.token s.mint.used

/-- Changes what the store remembers. -/
def remember (f : Memory → Memory) : Action Unit :=
  modify fun s => { s with memory := f s.memory }

/-- A result, or a failure. -/
def lift {α : Type} : Except Failure α → Action α
  | .ok a => pure a
  | .error f => throw f

/-! ### Documents -/

/-- The path of a document. -/
def State.documentPath (s : State) (document : String) : String :=
  Files.joinPath s.folder document

/-- The records of a document as it is on the disk; a document that is not there has none. -/
def readRecords (disk : Files.Disk) (path : String) (schema : Document.Schema) :
    Except Failure (List Document.Record) :=
  match disk.has path with
  | .error r => .error (.refused r)
  | .ok false => .ok []
  | .ok true =>
    match disk.content path with
    | .error r => .error (.refused r)
    | .ok content =>
      match content.read with
      | .error flaw => .error (.undecodable flaw)
      | .ok text => (Document.decode schema text).mapError fun f => .fault (.document f)

/-- Reads the records of a document. -/
def readDocument (schema : Document.Schema) : Action (List Document.Record) := do
  let s ← get
  lift (readRecords s.disk (s.documentPath schema.document) schema)

/-- Carries out a change of the disk, unless it is refused. -/
def change (f : Files.Disk → Except Files.Refusal Files.Disk) : Action Unit := do
  let s ← get
  match f s.disk with
  | .ok disk => set { s with disk := disk }
  | .error refusal => throw (.refused refusal)

/-- Makes the folder of the documents, unless it is there. -/
def prepareFolder : Action Unit := do
  let s ← get
  let (made, disk) := s.disk.makeFolders s.folder
  set { s with disk := disk }
  match made with
  | .ok _ => return ()
  | .error refusal => throw (.refused refusal)

/-- Writes a document anew. The text is first written beside the document, as a draft that then
takes the place of the document. -/
def writeDocument (schema : Document.Schema) (rs : List Document.Record) : Action Unit := do
  let path := (← get).documentPath schema.document
  let draft := path ++ ".tmp"
  prepareFolder
  change fun disk => disk.write draft (.text (Document.encode schema rs))
  change fun disk => disk.move draft path

end AnchorIndex.Store
