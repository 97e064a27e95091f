import AnchorIndex.Text.Search
import AnchorIndex.Entity.Basic

/-!
# Implementation records

The name of an implementation is its header on one line: a trait, the word `for` and a type, or
the type alone when the functions are the type's own (`splitHeader`). Traits and types are
compared by their base name, without path, reference and arguments (`baseName`).

The record of an implementation tells which trait it implements for which type, whether the trait
is defined outside the program, and which functions are its members (`Record.build`). Members are
the functions strictly inside the block, by first line.
-/

namespace AnchorIndex.Implementation

/-! ### Headers -/

/-- The part of a text after its last double colon. -/
def lastSegment (cs : List Char) : List Char :=
  match Text.cutAt? [':', ':'] cs.reverse with
  | some (last, _) => last.reverse
  | none => cs

/-- The text without a leading piece. -/
def withoutStart (piece cs : List Char) : List Char :=
  (Text.afterPiece? piece cs).getD cs

/-- The base name of a trait or type. -/
def baseName (type : String) : String :=
  let head := Text.strip (type.toList.takeWhile (· != '<'))
  let bare := Text.strip (withoutStart "mut ".toList (head.dropWhile (· == '&')))
  String.ofList (lastSegment bare)

/-- The trait and the type of an implementation's header. The trait is empty when there is
none. -/
def splitHeader (header : String) : String × String :=
  match Text.cutAt? " for ".toList header.toList with
  | some (trait, type) =>
    (String.ofList (Text.strip trait), String.ofList (Text.strip type))
  | none => ("", String.ofList (Text.strip header.toList))

/-! ### Records -/

/-- The resolved view of an implementation. -/
structure Record where
  entityId : String
  name : String
  trait : String
  type : String
  isExternal : Bool
  memberIds : List String
  definitionId : Option String
  deriving DecidableEq, Repr

/-- The functions inside a block, by first line. -/
def members (block : Entity) (functions : List Entity) : List Entity :=
  (functions.filter (block.contains ·)).mergeSort fun a b => a.first ≤ b.first

/-- The record of an implementation. The definitions are given under base names of traits. -/
def Record.build (block : Entity) (functions : List Entity)
    (definitions : List (String × Entity)) : Record :=
  let (trait, type) := splitHeader block.name
  let definition := if trait = "" then none else definitions.lookup (baseName trait)
  { entityId := block.id
    name := block.name
    trait := trait
    type := type
    isExternal := trait != "" && definition.isNone
    memberIds := (members block functions).map (·.id)
    definitionId := definition.map (·.id) }

end AnchorIndex.Implementation
