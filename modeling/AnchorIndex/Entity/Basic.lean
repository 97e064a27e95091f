/-!
# Entities

The index knows five kinds of constructs (`Kind`). Within its kind a construct has a role
(`Role`), for instance that of an entrypoint among the functions. A role belongs to one kind, so a
construct that has a role needs no kind besides it.

An entity is a construct that the index knows: its role, the file and the lines in which it
stands, its name, and the identity that the store gave it. The lines are counted from one and the
last is not before the first, so an entity with other lines does not exist.
-/

namespace AnchorIndex

/-! ### Kinds -/

/-- The kinds of constructs. -/
inductive Kind where
  | function
  | struct
  | trait
  | implementation
  | enumeration
  deriving DecidableEq, Repr

namespace Kind

/-- All kinds, in the order in which they are listed. -/
def all : List Kind :=
  [function, struct, trait, implementation, enumeration]

/-- The name of a kind. -/
def label : Kind → String
  | function => "Function"
  | struct => "Struct"
  | trait => "Trait"
  | implementation => "TraitImplementation"
  | enumeration => "Enum"

/-- The kind with a name. -/
def ofLabel? (s : String) : Option Kind :=
  all.find? (·.label == s)

end Kind

/-- What a construct is within its kind. -/
inductive Role where
  /-- A function of the program module. -/
  | entrypoint
  /-- A function to which an entrypoint hands over its context. -/
  | handler
  | otherFunction
  /-- A struct that lists the accounts of an entrypoint. -/
  | contextAccounts
  /-- A struct that is stored in an account. -/
  | accountData
  | otherStruct
  | traitDefinition
  /-- An implementation of a trait for a type. -/
  | traitImplementation
  /-- An implementation of a type's own functions. -/
  | inherentImplementation
  /-- An enumeration of error codes. -/
  | errorCodes
  | otherEnumeration
  deriving DecidableEq, Repr

namespace Role

/-- All roles. -/
def all : List Role :=
  [entrypoint, handler, otherFunction, contextAccounts, accountData, otherStruct, traitDefinition,
    traitImplementation, inherentImplementation, errorCodes, otherEnumeration]

/-- The kind to which a role belongs. -/
def kind : Role → Kind
  | entrypoint | handler | otherFunction => .function
  | contextAccounts | accountData | otherStruct => .struct
  | traitDefinition => .trait
  | traitImplementation | inherentImplementation => .implementation
  | errorCodes | otherEnumeration => .enumeration

/-- The name of a role within its kind. -/
def label : Role → String
  | entrypoint => "EntryPoint"
  | handler => "Handler"
  | contextAccounts => "ContextAccounts"
  | accountData => "SolanaAccount"
  | traitDefinition => "Definition"
  | traitImplementation => "TraitImpl"
  | inherentImplementation => "Inherent"
  | errorCodes => "ErrorCode"
  | otherFunction | otherStruct | otherEnumeration => "Other"

end Role

/-- The roles of a kind, in the order in which they are listed. -/
def Kind.roles (k : Kind) : List Role :=
  Role.all.filter (·.kind == k)

/-- The role of a kind with a name. -/
def Kind.role? (k : Kind) (s : String) : Option Role :=
  k.roles.find? (·.label == s)

/-- Kind and name determine a role. -/
theorem Kind.role?_kind_label (r : Role) :
  r.kind.role? r.label = some r
  := by
  cases r <;> decide

/-- A role that is found belongs to the kind. -/
theorem Kind.kind_of_role? {k : Kind} {s : String} {r : Role} (h : k.role? s = some r) :
  r.kind = k
  := by
  have := List.mem_of_find?_eq_some h
  simpa [Kind.roles] using (List.mem_filter.1 this).2

/-! ### Entities -/

/-- A construct known to the index. `id` is empty until the store assigns one, and `enclosing`
are the lines of the block around the construct, if it stands in one. -/
structure Entity where
  role : Role
  path : String
  name : String
  first : Nat
  last : Nat
  id : String
  enclosing : Option (Int × Int)
  one_le_first : 1 ≤ first
  first_le_last : first ≤ last
  deriving DecidableEq

namespace Entity

/-- The kind of an entity is that of its role. -/
def kind (e : Entity) : Kind :=
  e.role.kind

/-- The entity with an identity. -/
def withId (e : Entity) (id : String) : Entity :=
  { e with id := id }

/-- The entity with the lines of the block around it. -/
def withEnclosing (e : Entity) (range : Int × Int) : Entity :=
  { e with enclosing := some range }

/-- An entity contains another one that lies strictly inside it in the same file. -/
def contains (e other : Entity) : Bool :=
  e.path == other.path && e.first < other.first && other.last < e.last

/-- The number of lines after the first one. -/
def span (e : Entity) : Nat :=
  e.last - e.first

/-- Entities are listed by name, then by path, then by first line. -/
def listedBefore (a b : Entity) : Bool :=
  a.name < b.name ||
    (a.name == b.name &&
      (a.path < b.path || (a.path == b.path && a.first ≤ b.first)))

/-- The entity with the given lines, if they are lines. -/
def ofLines? (role : Role) (path name : String) (first last : Int) (id : String)
    (enclosing : Option (Int × Int)) : Option Entity :=
  if h : 1 ≤ first ∧ first ≤ last then
    some
      { role, path, name, id, enclosing
        first := first.toNat
        last := last.toNat
        one_le_first := by omega
        first_le_last := by omega }
  else none

end Entity

end AnchorIndex
