import AnchorIndex.CallGraph.Calls
import AnchorIndex.Session.Basic
import AnchorIndex.Source.Split

/-!
# Resolving calls

The dependency record of a function is computed from its body when it is first asked for, together
with the records of all functions that it may reach and that have none yet (`resolve`). Records
that are there are never computed anew. Each round of the search takes one function from the list
of those that wait; a function waits once at most, so there are no more rounds than entities.
-/

namespace AnchorIndex.Session

/-- The members of implementations of one record. -/
def membersOf (r : Implementation.Record) : List String → Action (List Member)
  | [] => return []
  | id :: rest => do
    let e ← onStore (Store.read id)
    return ⟨Implementation.baseName r.type, e.name, id⟩ :: (← membersOf r rest)

/-- The members of implementations of several records; those of foreign traits have none. -/
def membersOfAll : List Implementation.Record → Action (List Member)
  | [] => return []
  | r :: rest => do
    let here ← if r.isExternal then pure [] else membersOf r r.memberIds
    return here ++ (← membersOfAll rest)

theorem membersOfAll_cons (r : Implementation.Record) (rest : List Implementation.Record) :
  membersOfAll (r :: rest)
    = (if r.isExternal then pure [] else membersOf r r.memberIds) >>= fun here =>
        membersOfAll rest >>= fun more => pure (here ++ more)
  := by
  rw [membersOfAll]
  split <;> rfl

/-- The members of implemented types. -/
def members : Action (List Member) := do
  match (← get).members with
  | some ms => return ms
  | none =>
    let ms ← membersOfAll (← onStore Store.implementations)
    modify fun s => { s with members := some ms }
    return ms

/-- The identities of the members of a type with a name. -/
def memberIds (ms : List Member) (type name : String) : List String :=
  (ms.filter fun m => m.type == type && m.name == name).map (·.id)

/-- The functions that names mean, and the names that mean none. -/
def lookUpNames : List String → Action (List String × List String)
  | [] => return ([], [])
  | name :: rest => do
    let found ← onStore (Store.query .function (some name) none)
    let (internal, external) ← lookUpNames rest
    if found.isEmpty then return (internal, name :: external)
    else return (found.map (·.id) ++ internal, external)

/-- Computes the dependency record of a function from its body. -/
def compute (function : Entity) : Action CallGraph.Record := do
  modify fun s => { s with parsed := s.parsed + 1 }
  let text ← content function
  let body := Source.mask (Source.Function.body text)
  let ms ← members
  let taken := CallGraph.takeQualified (memberIds ms) body
  let (internal, external) ← lookUpNames (CallGraph.callNames function.name taken.body).eraseDups
  return .ofEdges function.id function.name (taken.ids ++ internal) external

/-- The functions among dependencies that have to be computed: those that neither wait or are done
(`visited`) nor have a record. -/
def enqueue (visited : List String) : List String → Action (List String × List Entity)
  | [] => return (visited, [])
  | id :: rest => do
    if visited.contains id then enqueue visited rest
    else if (← onStore (Store.dependency? id)).isSome then enqueue visited rest
    else
      let e ← onStore (Store.read id)
      let (visited, more) ← enqueue (visited ++ [id]) rest
      return (visited, e :: more)

/-- Computes the records of the functions that wait and of those that they reach. -/
def computeAll : (rounds : Nat) → (visited : List String) → (waiting : List Entity) →
    Action (List CallGraph.Record)
  | 0, _, _ => return []
  | _, _, [] => return []
  | rounds + 1, visited, e :: waiting => do
    let record ← compute e
    let (visited, more) ← enqueue visited record.internal
    return record :: (← computeAll rounds visited (waiting ++ more))

/-- The dependency record of a function. -/
def resolve (id : String) : Action CallGraph.Record := do
  match ← onStore (Store.dependency? id) with
  | some record => return record
  | none =>
    let root ← onStore (Store.read id)
    let index ← onStore Store.byId
    let records ← computeAll (index.length + 1) [root.id] [root]
    onStore (Store.putDependencies records)
    match records with
    | record :: _ => return record
    | [] => throw (.fault (.entityMissing id "any kind"))

/-- The dependency records of functions, one after another. -/
def resolveEach : List Entity → Action (List CallGraph.Record)
  | [] => return []
  | e :: rest => do
    let record ← resolve e.id
    return record :: (← resolveEach rest)

/-- The dependency records of all functions with a name. -/
def resolveNamed (name : String) : Action (List CallGraph.Record) := do
  resolveEach (← onStore (Store.query .function (some name) none))

/-- The dependency records of all functions. -/
def resolveAll : Action (List CallGraph.Record) := do
  resolveEach (← onStore (Store.all .function))

end AnchorIndex.Session
