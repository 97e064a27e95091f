import AnchorIndex.Yaml.Node
import AnchorIndex.Yaml.Plain

/-!
# The value of a text

A tree stands for a datum (`Node.toDatum`): scalars for truth values, numbers, texts and null,
sequences for lists, mappings for tables. Of several entries with one key the last one counts. An
entry with the key `<<` takes over the entries of other mappings, behind those that a mapping has
itself. `read` is the datum of a whole text.
-/

namespace AnchorIndex.Yaml

/-! ### Keys -/

/-- Keys are the same when they are equal texts or equal numbers; truth values count as numbers. -/
def sameKey (a b : Datum) : Bool :=
  let number? (d : Datum) : Option Int :=
    match d with
    | .bool b => some (if b then 1 else 0)
    | .int n => some n
    | _ => none
  match number? a, number? b with
  | some m, some n => m == n
  | some m, none => match b with | .real x => Float.ofInt m == x | _ => false
  | none, some n => match a with | .real x => Float.ofInt n == x | _ => false
  | none, none =>
    match a, b with
    | .null, .null => true
    | .real x, .real y => x == y
    | .text s, .text t => s == t
    | .moment m, .moment n => m == n
    | _, _ => false

/-- A datum can be the key of an entry. -/
def isKey : Datum → Bool
  | .list _ => false
  | .table _ => false
  | .mapping _ => false
  | _ => true

/-- The entries with an entry in the place of one with the same key, or else at the end. -/
def placeEntry (es : List (Datum × Datum)) (e : Datum × Datum) : List (Datum × Datum) :=
  match es with
  | [] => [e]
  | old :: rest => if sameKey old.1 e.1 then (old.1, e.2) :: rest else old :: placeEntry rest e

/-- A mapping is a table when all of its keys are texts. -/
def mappingOf (es : List (Datum × Datum)) : Datum :=
  let es := es.foldl placeEntry []
  match es.mapM fun (k, v) => (k.text?).map fun key => (key, v) with
  | some table => .table table
  | none => .mapping es

/-- The entries of a table or a mapping. -/
def entriesOf? : Datum → Option (List (Datum × Datum))
  | .table es => some (es.map fun (k, v) => (.text k, v))
  | .mapping es => some es
  | _ => none

/-- The entries that are taken over from a mapping, or from the mappings of a list, of which the
first count most. -/
def takenOver : Datum → Valued (List (Datum × Datum))
  | .list items =>
    match items.mapM entriesOf? with
    | some ess => .ok ess.reverse.flatten
    | none => .error .malformed
  | d =>
    match entriesOf? d with
    | some es => .ok es
    | none => .error .malformed

/-! ### Nodes as data -/

/-- The value of a scalar with a tag. -/
def scalarValue (tag : Option Tag) (text : String) (plain : Bool) : Valued Datum :=
  match tag with
  | none => if plain then plainValue text else .ok (.text text)
  | some .nonSpecific => plainValue text
  | some .foreign => .error .malformed
  | some (.standard name) =>
    match name, truthValue? text, integer? text.toList, real? text.toList with
    | "str", _, _, _ => .ok (.text text)
    | "null", _, _, _ => .ok .null
    | "bool", some b, _, _ => .ok (.bool b)
    | "int", _, some n, _ => n.map .int
    | "float", _, _, some x => .ok (.real x)
    | "float", _, some n, _ => n.map fun n => .real (Float.ofInt n)
    | _, _, _, _ => .error .malformed

/-- A collection has no tag but that of its type. -/
def fits (tag : Option Tag) (name : String) : Bool :=
  match tag with
  | none => true
  | some .nonSpecific => true
  | some (.standard n) => n == name
  | some .foreign => false

/-- The node is a plain scalar. -/
def Node.isPlain (n : Node) (s : String) : Bool :=
  match n with
  | scalar none text true => text == s
  | scalar (some .nonSpecific) text _ => text == s
  | _ => false

mutual

/-- The datum of a node. -/
def Node.toDatum : Node → Valued Datum
  | .scalar tag text plain => scalarValue tag text plain
  | .sequence tag items =>
    if fits tag "seq" then (itemsData items).map .list else .error .malformed
  | .mapping tag entries =>
    if fits tag "map" then
      match entriesData entries with
      | .ok (others, own) => .ok (mappingOf (others ++ own))
      | .error flaw => .error flaw
    else .error .malformed

/-- The data of the items of a sequence. -/
def itemsData : List Node → Valued (List Datum)
  | [] => .ok []
  | n :: rest =>
    match n.toDatum, itemsData rest with
    | .ok d, .ok ds => .ok (d :: ds)
    | .error flaw, _ => .error flaw
    | .ok _, .error flaw => .error flaw

/-- The entries that a mapping takes over, and its own. -/
def entriesData : List (Node × Node) → Valued (List (Datum × Datum) × List (Datum × Datum))
  | [] => .ok ([], [])
  | (k, v) :: rest =>
    match v.toDatum, entriesData rest with
    | .ok value, .ok (others, own) =>
      if k.isPlain "<<" then (takenOver value).map fun es => (es ++ others, own)
      else if k.isPlain "=" then .ok (others, (.text "=", value) :: own)
      else
        match k.toDatum with
        | .ok key =>
          if isKey key then .ok (others, (key, value) :: own) else .error .malformed
        | .error flaw => .error flaw
    | .error flaw, _ => .error flaw
    | .ok _, .error flaw => .error flaw

end

/-- The datum of a text. -/
def read (text : String) : Valued Datum :=
  match (Token.scan? text.toList).bind Node.ofTokens? with
  | some n => n.toDatum
  | none => .error .malformed

end AnchorIndex.Yaml
