import AnchorIndex.Fault

/-!
# Records given as data

`Record.ofDatum` makes a record from a table with a value for the title and for each field. Of a
list of texts the parts of the value are taken: the items of a list, the keys of a table, or the
characters of a text. The two ends of a range are the first two of these.
-/

namespace AnchorIndex

/-! ### Parts of data -/

/-- The parts of a datum: items, keys or characters. A datum that counts as absent has none. -/
def Datum.parts (d : Datum) : Except Failure (List Datum) :=
  match d with
  | .list items => .ok items
  | .table entries => .ok (entries.map fun (key, _) => .text key)
  | .mapping entries => .ok (entries.map (·.1))
  | .text s => .ok (s.toList.map fun c => .text c.toString)
  | d => if d.isEmpty then .ok [] else .error (.notIterable d)

/-- The part of a datum at a position. -/
def Datum.part (d : Datum) (i : Nat) : Except Failure Datum :=
  let among (parts : List Datum) : Except Failure Datum :=
    match parts[i]? with
    | some part => .ok part
    | none => .error (.tooShort d)
  match d with
  | .list items => among items
  | .text s => among (s.toList.map fun c => .text c.toString)
  | .table _ | .mapping _ => .error (.missingKey (.int i))
  | d => .error (.notSubscriptable d)

/-- The entry of a datum under a key, which it needs. -/
def Datum.entry (d : Datum) (key : String) : Except Failure Datum :=
  match d.get? key with
  | some value => .ok value
  | none => .error (if d.isTable then .missingKey (.text key) else .notSubscriptable d)

namespace Document

/-! ### Records -/

/-- The value of a field of a type that a datum gives. -/
def Value.ofDatum (type : FieldType) (d : Datum) : Except Failure Value :=
  match type with
  | .textList => return .texts ((← d.parts).map (·.display))
  | .boolean => return .boolean (!d.isEmpty)
  | .range => do
    if d.isEmpty then return .absent
    else return .span (← d.part 0).display (← d.part 1).display
  | .text | .optionalText | .integer =>
    match d with
    | .null => return .absent
    | .int n => return .integer n
    | d => return .text d.display

/-- The section that a table gives. -/
def Section.ofDatum (l : Layout) (d : Datum) : Except Failure Section := do
  let title ← d.entry l.titleKey
  let values ← l.fields.mapM fun f => return (f.key, ← Value.ofDatum f.type (d.getD f.key))
  return ⟨title.display, values⟩

/-- The record that a table gives. -/
def Record.ofDatum (schema : Schema) (d : Datum) : Except Failure Record := do
  let main ← Section.ofDatum schema.layout d
  match schema.nested with
  | none => return ⟨main, []⟩
  | some (key, layout) =>
    return ⟨main, ← (← (d.getD key).parts).mapM (Section.ofDatum layout)⟩

end Document

end AnchorIndex
