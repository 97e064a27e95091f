import AnchorIndex.Settings.Model
import AnchorIndex.Source.Boundary
import AnchorIndex.Store.Entities
import AnchorIndex.Store.Records

/-!
# Sessions

A session works on the store of one workspace under its settings. It remembers the lines of the
source files that it has read (`sourceLines`), and the members of implemented types once a call
was resolved. Its operations (`Action`) may fail, and what they did before they failed stays
done.
-/

namespace AnchorIndex.Session

/-- A member of an implemented type: the type, the name of the function and its identity. -/
structure Member where
  type : String
  name : String
  id : String
  deriving DecidableEq, Repr

/-- The state of a session. -/
structure State where
  store : Store.State
  settings : Settings
  sources : List (String × List (List Char))
  members : Option (List Member)
  /-- The number of function bodies that were searched for calls. -/
  parsed : Nat

/-- An operation of a session. -/
abbrev Action (α : Type) : Type := ExceptT Failure (StateM State) α

/-- A session on a workspace that has remembered nothing yet. -/
def State.start (disk : Files.Disk) (mint : Store.Mint) (settings : Settings) : State where
  store := ⟨disk, settings.metadataPath disk, mint, .empty⟩
  settings := settings
  sources := []
  members := none
  parsed := 0

/-- An operation of the store as one of the session. -/
def onStore {α : Type} (a : Store.Action α) : Action α :=
  ExceptT.mk fun s =>
    let (result, store) := a.run.run s.store
    (result, { s with store := store })

/-- A result, or a failure. -/
def lift {α : Type} : Except Failure α → Action α
  | .ok a => pure a
  | .error f => throw f

/-! ### Source texts -/

/-- The lines of a source file, read when they are first needed. -/
def sourceLines (path : String) : Action (List (List Char)) := do
  let s ← get
  match s.sources.lookup path with
  | some lines => return lines
  | none =>
    match s.store.disk.content (s.store.disk.path path) with
    | .error .noPath => throw (.refused .noPath)
    | .error refusal => throw (.fault (.sourceUnreadable path refusal.message))
    | .ok content =>
      let lines := Text.lines content.readLossy.toList
      modify fun s => { s with sources := setEntry path lines s.sources }
      return lines

/-- The lines `first` to `last`, counted from one, as one text. -/
def excerpt (lines : List (List Char)) (first last : Nat) : List Char :=
  Text.unlines ((lines.drop (first - 1)).take (last - (first - 1)))

/-- The source text of an entity. -/
def content (e : Entity) : Action (List Char) := do
  return excerpt (← sourceLines e.path) e.first e.last

/-- Forgets source texts and members, so that they are read anew. -/
def forget : Action Unit :=
  modify fun s => { s with sources := [], members := none, parsed := 0 }

end AnchorIndex.Session
