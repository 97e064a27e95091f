import AnchorIndex.Store.Basic

/-!
# Records of the store

The store keeps the dependency records of functions, the records of implementations and the
records of accounts structs, each under the identity of its entity. Dependency records are added
one by one; the others are replaced as a whole.
-/

namespace AnchorIndex.Store

/-- Records under their keys, of several with one key the last one. -/
def indexRecords {α : Type} (key : α → String) (rs : List α) : List (String × α) :=
  mergeRepeated (rs.map fun r => (key r, r))

/-- Texts are ordered first by one key, then by another. -/
def orderedBy {α : Type} (first second : α → String) (a b : α) : Bool :=
  first a < first b || (first a == first b && second a ≤ second b)

/-! ### Dependency records -/

/-- The dependency records, under the identities of their functions. -/
def dependencyIndex : Action (List (String × CallGraph.Record)) := do
  match (← get).memory.dependencies with
  | some index => return index
  | none =>
    let rs ← readDocument dependencySchema
    let index := indexRecords (·.ownerId) (rs.map dependencyOfRecord)
    remember fun m => { m with dependencies := some index }
    return index

/-- The dependency record of a function, if there is one. -/
def dependency? (ownerId : String) : Action (Option CallGraph.Record) :=
  return (← dependencyIndex).lookup ownerId

/-- Adds dependency records, in the place of records of the same functions. -/
def putDependencies (rs : List CallGraph.Record) : Action Unit := do
  let index := rs.foldl (fun acc r => setEntry r.ownerId r acc) (← dependencyIndex)
  remember fun m => { m with dependencies := some index }
  let ordered := (index.map (·.2)).mergeSort (orderedBy (·.functionName) (·.ownerId))
  writeDocument dependencySchema (ordered.map dependencyRecord)

/-- The dependency records. -/
def dependencies : Action (List CallGraph.Record) :=
  return (← dependencyIndex).map (·.2)

/-- Forgets all dependency records. -/
def clearDependencies : Action Unit := do
  remember fun m => { m with dependencies := some [] }
  writeDocument dependencySchema []

/-! ### Implementation records -/

/-- The implementation records, under the identities of the implementations. -/
def implementationIndex : Action (List (String × Implementation.Record)) := do
  match (← get).memory.implementations with
  | some index => return index
  | none =>
    let rs ← readDocument implementationSchema
    let index := indexRecords (·.entityId) (rs.map implementationOfRecord)
    remember fun m => { m with implementations := some index }
    return index

/-- Stores implementation records in the place of all there are. -/
def replaceImplementations (rs : List Implementation.Record) : Action Unit := do
  let ordered := rs.mergeSort (orderedBy (·.name) (·.entityId))
  writeDocument implementationSchema (ordered.map implementationRecord)
  remember fun m => { m with implementations := some (indexRecords (·.entityId) ordered) }

/-- The implementation records. -/
def implementations : Action (List Implementation.Record) :=
  return (← implementationIndex).map (·.2)

/-- The record of an implementation, if there is one. -/
def implementation? (id : String) : Action (Option Implementation.Record) :=
  return (← implementationIndex).lookup id

/-! ### Accounts records -/

/-- The accounts records, under the identities of their structs. -/
def accountsIndex : Action (List (String × Account.Record)) := do
  match (← get).memory.accounts with
  | some index => return index
  | none =>
    let rs ← readDocument accountsSchema
    let index := indexRecords (·.structId) (rs.map accountsOfRecord)
    remember fun m => { m with accounts := some index }
    return index

/-- Stores accounts records in the place of all there are. -/
def replaceAccounts (rs : List Account.Record) : Action Unit := do
  let ordered := rs.mergeSort (orderedBy (·.name) (·.structId))
  writeDocument accountsSchema (ordered.map accountsRecord)
  remember fun m => { m with accounts := some (indexRecords (·.structId) ordered) }

/-- The accounts records. -/
def accountsRecords : Action (List Account.Record) :=
  return (← accountsIndex).map (·.2)

/-- The accounts record of a struct, if there is one. -/
def accountsOf? (structId : String) : Action (Option Account.Record) :=
  return (← accountsIndex).lookup structId

end AnchorIndex.Store
