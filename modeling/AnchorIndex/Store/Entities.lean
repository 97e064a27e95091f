import AnchorIndex.Entity.Identity
import AnchorIndex.Store.Basic

/-!
# Entities of the store

An entity keeps its identity for as long as an entity with its identity key is stored. Entities
are put into the store in batches (`upsertMany`, `replaceAll`): each of the batch takes the
identity of the stored entity with its key, or a new one (`assign`). The stored entities of a kind
are listed by name, path and first line.
-/

namespace AnchorIndex.Store

/-! ### Loading and saving -/

/-- Remembers the entities of a kind. -/
def Memory.withEntities (m : Memory) (kind : Kind) (es : List Entity) : Memory :=
  { m with entities := fun k => if k = kind then some es else m.entities k }

/-- The entities of a kind that the documents hold. -/
def readEntities (disk : Files.Disk) (path : String) (kind : Kind) :
    Except Failure (List Entity) := do
  let rs ← readRecords disk path (entitySchema kind)
  (entitiesOfRecords kind rs).mapError fun f => .fault (.document f)

/-- The stored entities of a kind. -/
def all (kind : Kind) : Action (List Entity) := do
  let s ← get
  match s.memory.entities kind with
  | some es => return es
  | none =>
    let es ← lift (readEntities s.disk (s.documentPath (entityDocument kind)) kind)
    remember (·.withEntities kind es)
    return es

/-- Entities in the order in which they are listed. -/
def listed (es : List Entity) : List Entity :=
  es.mergeSort Entity.listedBefore

/-- Stores the entities of a kind. -/
def save (kind : Kind) (es : List Entity) : Action Unit := do
  let es := listed es
  writeDocument (entitySchema kind) (es.map entityRecord)
  remember fun m => { m.withEntities kind es with byId := none }

/-! ### Identities -/

/-- The identity that is known for a key; the empty one is no identity. -/
def knownId? (known : List (IdentityKey × String)) (key : IdentityKey) : Option String :=
  (known.lookup key).filter (· != "")

/-- The entities of a kind with their identity keys. -/
def keyed (es : List Entity) : List (IdentityKey × Entity) :=
  (identityKeys es).zip es

/-- The identities of the entities of a list, by their keys. -/
def knownIds (es : List Entity) : List (IdentityKey × String) :=
  (keyed es).map fun (key, e) => (key, e.id)

/-- Gives each of the entities the identity that is known for its key, or a new one. -/
def assignIds (known : List (IdentityKey × String)) :
    List (IdentityKey × Entity) → Action (List (IdentityKey × Entity))
  | [] => return []
  | (key, e) :: rest => do
    let id ←
      match knownId? known key with
      | some id => pure id
      | none => mintId
    return (key, e.withId id) :: (← assignIds known rest)

/-- What is said of an entity that is stored under another kind. -/
def foreignEntity (kind : Kind) (e : Entity) : String :=
  "Cannot store " ++ e.kind.label ++ " " ++ Text.quote e.name ++ " as " ++ kind.label

/-- Gives the entities of a batch identities. All of them have to be of the kind. -/
def assign (kind : Kind) (known : List (IdentityKey × String)) (batch : List Entity) :
    Action (List (IdentityKey × Entity)) :=
  match batch.find? (·.kind != kind) with
  | some e => throw (.argument (foreignEntity kind e))
  | none => assignIds known (keyed batch)

/-! ### Writing -/

/-- The entities with one put in the place of the entity with its key, or at the end. -/
def placeEntity (stored : List (IdentityKey × Entity)) (new : IdentityKey × Entity) :
    List (IdentityKey × Entity) :=
  match stored with
  | [] => [new]
  | old :: rest => if old.1 = new.1 then new :: rest else old :: placeEntity rest new

/-- Inserts the entities of a batch or puts them in the place of stored ones, and answers them
with their identities. -/
def upsertMany (kind : Kind) (batch : List Entity) : Action (List Entity) := do
  let current ← all kind
  let assigned ← assign kind (knownIds current) batch
  save kind ((assigned.foldl placeEntity (keyed current)).map (·.2))
  return assigned.map (·.2)

/-- Inserts one entity or puts it in the place of a stored one, and answers it with its
identity. -/
def upsert (kind : Kind) (e : Entity) : Action (List Entity) :=
  upsertMany kind [e]

/-- Stores the entities of a batch in the place of all entities of a kind, and answers them with
their identities. -/
def replaceAll (kind : Kind) (batch : List Entity) : Action (List Entity) := do
  let previous ← all kind
  let assigned ← assign kind (knownIds previous) batch
  let stored := assigned.map (·.2)
  save kind stored
  return stored

/-! ### Reading -/

/-- The entities of a kind with a name and a role, where these are given. -/
def query (kind : Kind) (name : Option String) (role : Option Role) : Action (List Entity) := do
  return (← all kind).filter fun e =>
    (name.all fun n => e.name == n) && (role.all fun r => e.role == r)

/-- The entities of some kinds. -/
def allOf : List Kind → Action (List Entity)
  | [] => return []
  | k :: rest => return (← all k) ++ (← allOf rest)

/-- Entities under their identities, of several with one identity the last one. -/
def indexById (es : List Entity) : List (String × Entity) :=
  mergeRepeated (es.map fun e => (e.id, e))

/-- The entities of all kinds under their identities. -/
def byId : Action (List (String × Entity)) := do
  match (← get).memory.byId with
  | some index => return index
  | none =>
    let index := indexById (← allOf Kind.all)
    remember fun m => { m with byId := some index }
    return index

/-- The entity with an identity, if there is one. -/
def find? (id : String) : Action (Option Entity) :=
  return (← byId).lookup id

/-- The entity with an identity. -/
def read (id : String) : Action Entity := do
  match ← find? id with
  | some e => return e
  | none => throw (.fault (.entityMissing id "any kind"))

/-- The path and the first line of the entity with an identity. -/
def locate (id : String) : Action (String × Nat) := do
  let e ← read id
  return (e.path, e.first)

end AnchorIndex.Store
