import AnchorIndex.Entity.Basic

/-!
# Enclosing blocks

Implementations and traits are blocks that hold other constructs. `assignEnclosing` gives every
scanned entity the lines of the innermost block around it in its file. Of two blocks of the same
length the one that comes first counts, and implementations come before traits.
-/

namespace AnchorIndex

/-- The entities found for each of some kinds. -/
abbrev Scanned : Type := List (Kind × List Entity)

/-- The entities found for a kind. -/
def Scanned.ofKind (s : Scanned) (kind : Kind) : List Entity :=
  (s.lookup kind).getD []

/-- The entities that may enclose others. -/
def Scanned.containers (s : Scanned) : List Entity :=
  s.ofKind .implementation ++ s.ofKind .trait

/-- The shortest of the entities, the first one among equally short ones. -/
def shortest? : List Entity → Option Entity
  | [] => none
  | e :: r =>
    match shortest? r with
    | none => some e
    | some m => if m.span < e.span then some m else some e

/-- The innermost of the containers around an entity. -/
def Entity.innermost? (containers : List Entity) (e : Entity) : Option Entity :=
  shortest? (containers.filter (·.contains e))

/-- The entity with the lines of the innermost container around it, if there is one. -/
def Entity.enclosedIn (containers : List Entity) (e : Entity) : Entity :=
  match e.innermost? containers with
  | some c => e.withEnclosing (c.first, c.last)
  | none => e

/-- Every entity with the lines of the innermost block around it. -/
def assignEnclosing (s : Scanned) : Scanned :=
  s.map fun (kind, es) => (kind, es.map (·.enclosedIn s.containers))

end AnchorIndex
