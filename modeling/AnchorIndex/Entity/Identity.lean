import AnchorIndex.Entity.Basic

/-!
# Identity of entities

Entities of one kind with the same path, name and enclosing lines share a logical key
(`LogicalKey`). They are told apart by their order in the file: the identity key of an entity is
its logical key together with its rank by first line among the entities that share it
(`identityKeys`). Of two entities on the same first line the one that is listed first comes
first.
-/

namespace AnchorIndex

/-- What identifies an entity up to its order among entities of the same name. -/
structure LogicalKey where
  kind : Kind
  path : String
  name : String
  enclosing : Option (Int × Int)
  deriving DecidableEq

/-- What identifies an entity among the entities of a list. -/
structure IdentityKey where
  base : LogicalKey
  ordinal : Nat
  deriving DecidableEq

/-- The logical key of an entity. -/
def Entity.logicalKey (e : Entity) : LogicalKey :=
  ⟨e.kind, e.path, e.name, e.enclosing⟩

/-- The rank of an entity between those listed before and after it: the number of entities with
its logical key that come before it by first line. -/
def Entity.ordinal (before : List Entity) (e : Entity) (after : List Entity) : Nat :=
  (before.filter fun d => d.logicalKey == e.logicalKey && d.first ≤ e.first).length +
    (after.filter fun d => d.logicalKey == e.logicalKey && d.first < e.first).length

/-- The identity keys of the entities `after`, given the entities listed before them in
reverse. -/
def identityKeysFrom (before : List Entity) : List Entity → List IdentityKey
  | [] => []
  | e :: after => ⟨e.logicalKey, e.ordinal before after⟩ :: identityKeysFrom (e :: before) after

/-- The identity keys of the entities of a list, in its order. -/
def identityKeys (es : List Entity) : List IdentityKey :=
  identityKeysFrom [] es

theorem length_identityKeysFrom (before es : List Entity) :
  (identityKeysFrom before es).length = es.length
  := by
  induction es generalizing before with
  | nil => rfl
  | cons e after ih => simp [identityKeysFrom, ih]

/-- There are as many identity keys as entities. -/
theorem length_identityKeys (es : List Entity) :
  (identityKeys es).length = es.length
  := length_identityKeysFrom [] es

end AnchorIndex
