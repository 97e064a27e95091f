import AnchorIndex.Datum.Moment
import AnchorIndex.Text.Decimal
import AnchorIndex.Text.Quoted

/-!
# Data of open shape

Settings files, environment variables and log events carry values whose shape is known only when
they are read. A `Datum` is such a value; a table keeps its entries in the order in which they
came. `display` is the text of a datum in a message, where a text stands bare at the top and in
quotes inside other data, and a moment has a form for each.

Data of several sources are merged table by table (`mergeDatum`): a key of the stronger source wins,
and where both sources have tables these are merged in turn. Lists are never merged.
-/

namespace AnchorIndex

/-- A value of open shape. -/
inductive Datum where
  | null
  | bool (b : Bool)
  | int (n : Int)
  | real (x : Float)
  | text (s : String)
  | list (items : List Datum)
  | table (entries : List (String × Datum))
  /-- A table with keys that are not all texts. -/
  | mapping (entries : List (Datum × Datum))
  | moment (m : Moment)
  deriving Inhabited

namespace Datum

/-- A floating point number in a message; numbers that are not finite have names. -/
def realText (x : Float) : String :=
  if x.isNaN then "nan"
  else if x.isInf then (if x < 0 then "-inf" else "inf")
  else Text.Decimal.render x

mutual

/-- The text of a datum inside another one. -/
def quoted : Datum → String
  | null => "None"
  | bool b => if b then "True" else "False"
  | int n => toString n
  | real x => realText x
  | text s => Text.quote s
  | list items => "[" ++ ", ".intercalate (quotedItems items) ++ "]"
  | table entries => "\x7b" ++ ", ".intercalate (quotedEntries entries) ++ "\x7d"
  | mapping entries => "\x7b" ++ ", ".intercalate (quotedPairs entries) ++ "\x7d"
  | moment m => m.quoted

/-- The texts of the items of a list. -/
def quotedItems : List Datum → List String
  | [] => []
  | d :: r => quoted d :: quotedItems r

/-- The texts of the entries of a table. -/
def quotedEntries : List (String × Datum) → List String
  | [] => []
  | (k, d) :: r => (Text.quote k ++ ": " ++ quoted d) :: quotedEntries r

/-- The texts of the entries of a mapping. -/
def quotedPairs : List (Datum × Datum) → List String
  | [] => []
  | (k, d) :: r => (quoted k ++ ": " ++ quoted d) :: quotedPairs r

end

/-- The text of a datum in a message. -/
def display : Datum → String
  | text s => s
  | moment m => m.display
  | d => quoted d

/-- The name of the kind of value that a datum is. -/
def shape : Datum → String
  | null => "NoneType"
  | bool _ => "bool"
  | int _ => "int"
  | real _ => "float"
  | text _ => "str"
  | list _ => "list"
  | table _ => "dict"
  | mapping _ => "dict"
  | moment m => m.shape

/-- A datum counts as absent when it is null, false, zero or empty. -/
def isEmpty : Datum → Bool
  | null => true
  | bool b => !b
  | int n => n == 0
  | real x => x == 0.0
  | text s => s.isEmpty
  | list items => items.isEmpty
  | table entries => entries.isEmpty
  | mapping entries => entries.isEmpty
  | moment _ => false

/-- The text, when the datum is one. -/
def text? : Datum → Option String
  | text s => some s
  | _ => none

/-- The integer, when the datum is one. -/
def int? : Datum → Option Int
  | int n => some n
  | _ => none

/-- The items of a list, and none of anything else. -/
def items : Datum → List Datum
  | list ds => ds
  | _ => []

/-- The entries of a table, those of a mapping that have a text for a key, and none of anything
else. -/
def entries : Datum → List (String × Datum)
  | table es => es
  | mapping es =>
    es.filterMap fun (k, d) =>
      match k with
      | text key => some (key, d)
      | _ => none
  | _ => []

/-- The datum is a table or a mapping. -/
def isTable : Datum → Bool
  | table _ => true
  | mapping _ => true
  | _ => false

/-- The entry of a table under a key. -/
def get? (d : Datum) (key : String) : Option Datum :=
  d.entries.lookup key

/-- The entry of a table under a key, null when there is none. -/
def getD (d : Datum) (key : String) : Datum :=
  (d.get? key).getD null

end Datum

/-- The entries with the value of `key` set: in its place when the key is there, else at the
end. -/
def setEntry {α : Type} (key : String) (value : α) : List (String × α) → List (String × α)
  | [] => [(key, value)]
  | (k, v) :: r => if k = key then (k, value) :: r else (k, v) :: setEntry key value r

/-- The entries with later values of a key in the place of earlier ones. -/
def mergeRepeated {α : Type} (es : List (String × α)) : List (String × α) :=
  es.foldl (fun acc (k, v) => setEntry k v acc) []

/-! ### Merging -/

mutual

/-- The tables `base` and `strong` merged, where `strong` wins; anything else is replaced by
`strong`. -/
def mergeDatum (base : Datum) : Datum → Datum
  | .table strong =>
    if base.isTable then .table (mergeEntries base.entries strong) else .table strong
  | d => d

/-- Entries with those of the stronger source merged into them one by one. -/
def mergeEntries (entries : List (String × Datum)) : List (String × Datum) → List (String × Datum)
  | [] => entries
  | (key, v) :: rest =>
    let merged :=
      match entries.lookup key with
      | some old => mergeDatum old v
      | none => v
    mergeEntries (setEntry key merged entries) rest

end

end AnchorIndex
