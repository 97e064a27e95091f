import AnchorIndex.Source.Header
import AnchorIndex.Source.Mask

/-!
# Boundaries of constructs

A construct begins on the line of its header and ends on the line where the braces of its body
are balanced again. The scan goes through the masked lines and keeps the depth of open braces
(`Scan`). A header opens a construct (`Opened`) when none is open; the depth before the header is
its baseline. The construct ends at the brace that leads back to the baseline. A semicolon outside
parentheses before the body ends it too, and makes a construct only of a kind that needs no body.
A brace that leads below the baseline, or the end of the text, leaves a gap.

`findings` are the blocks and gaps of a text, and `scan` the blocks with their lines.
-/

namespace AnchorIndex.Source

/-- What headers a scan looks for: how to read one, and whether the construct may be without a
body. -/
structure Target where
  header? : List Char → Option String
  bodiless : Bool

/-- The target that a kind is. Only a struct needs no body. -/
def Target.ofKind (kind : Kind) : Target where
  header? := Source.header? kind
  bodiless := kind == .struct

/-- The target that modules are. -/
def Target.module : Target where
  header? := moduleHeader?
  bodiless := false

/-- A construct whose end is not found yet: its name, the index of its first line, the depth
before it, whether its body has begun, and the depth of parentheses and brackets before the
body. -/
structure Opened where
  name : String
  start : Nat
  baseline : Int
  braced : Bool
  nesting : Int

/-- What a scan finds, by indices of lines from zero. -/
inductive Finding where
  /-- A construct with its first and last line. -/
  | block (name : String) (start stop : Nat)
  /-- A construct without an end, with its first line. -/
  | gap (name : String) (start : Nat)
  deriving DecidableEq, Repr

/-- The state of a scan: the depth of open braces, the open construct, and what was found on the
present line. -/
structure Scan where
  depth : Int
  current : Option Opened
  found : Option Finding

/-- One character of line `index`. -/
def Scan.feed (bodiless : Bool) (index : Nat) (s : Scan) (c : Char) : Scan :=
  match c, s.current with
  | '{', none => { s with depth := s.depth + 1 }
  | '{', some o => { s with depth := s.depth + 1, current := some { o with braced := true } }
  | '}', none => { s with depth := s.depth - 1 }
  | '}', some o =>
    let depth := s.depth - 1
    if o.braced && depth == o.baseline then
      ⟨depth, none, some (.block o.name o.start index)⟩
    else if depth < o.baseline then ⟨depth, none, some (.gap o.name o.start)⟩
    else { s with depth := depth }
  | _, none => s
  | c, some o =>
    if o.braced then s
    else if c = '(' ∨ c = '[' then { s with current := some { o with nesting := o.nesting + 1 } }
    else if c = ')' ∨ c = ']' then { s with current := some { o with nesting := o.nesting - 1 } }
    else if c = ';' ∧ o.nesting ≤ 0 then
      { s with
        current := none
        found := if bodiless then some (.block o.name o.start index) else none }
    else s

/-- The construct that is open at the characters of a masked line. -/
def openAt (target : Target) (depth : Int) (current : Option Opened) (index : Nat)
    (masked : List Char) : Option Opened :=
  match current with
  | some o => some o
  | none =>
    (target.header? (Text.strip masked)).map fun name => ⟨name, index, depth, false, 0⟩

/-- One masked line. -/
def Scan.line (target : Target) (depth : Int) (current : Option Opened) (index : Nat)
    (masked : List Char) : Scan :=
  masked.foldl (Scan.feed target.bodiless index)
    ⟨depth, openAt target depth current index masked, none⟩

/-- What a scan finds from line `index` on. -/
def findingsFrom (target : Target) (depth : Int) (current : Option Opened) (index : Nat) :
    List (List Char) → List Finding
  | [] => (current.map fun o => Finding.gap o.name o.start).toList
  | masked :: rest =>
    let s := Scan.line target depth current index masked
    s.found.toList ++ findingsFrom target s.depth s.current (index + 1) rest

/-- What a scan finds in the lines of a text. -/
def findings (target : Target) (lines : List (List Char)) : List Finding :=
  findingsFrom target 0 none 0 (maskLines lines)

/-! ### Ranges -/

/-- A construct in a text, with its first and last line counted from one, and the text of its
lines. -/
structure Range where
  name : String
  first : Nat
  last : Nat
  content : String
  deriving Repr

/-- The lines from index `start` to index `stop` as one text. -/
def sliceLines (lines : List (List Char)) (start stop : Nat) : List Char :=
  Text.unlines ((lines.drop start).take (stop + 1 - start))

/-- The blocks among the findings, as ranges of the text. -/
def rangesOf (lines : List (List Char)) (fs : List Finding) : List Range :=
  fs.filterMap fun f =>
    match f with
    | .block name start stop =>
      some ⟨name, start + 1, stop + 1, String.ofList (sliceLines lines start stop)⟩
    | .gap _ _ => none

/-- The names and first lines of the gaps among the findings. -/
def gapsOf (fs : List Finding) : List (String × Nat) :=
  fs.filterMap fun f =>
    match f with
    | .block _ _ _ => none
    | .gap name start => some (name, start + 1)

/-- The constructs of a kind in a text. -/
def scan (kind : Kind) (text : String) : List Range :=
  let lines := Text.lines text.toList
  rangesOf lines (findings (.ofKind kind) lines)

/-- The constructs of a kind in a text that have no end, with their first lines. -/
def gaps (kind : Kind) (text : String) : List (String × Nat) :=
  gapsOf (findings (.ofKind kind) (Text.lines text.toList))

/-! ### The program module -/

/-- The line that marks the program module starts with this attribute. -/
def programAttribute : List Char :=
  "#[program]".toList

/-- The first and last line of the program module: the first module with a body from the line of
the program attribute on. -/
def programModule? (text : String) : Option (Nat × Nat) :=
  let lines := Text.lines text.toList
  match lines.findIdx? fun line => Text.startsWith programAttribute (Text.strip line) with
  | none => none
  | some offset =>
    let fs := findings .module (lines.drop offset)
    fs.findSome? fun f =>
      match f with
      | .block _ start stop => some (offset + start + 1, offset + stop + 1)
      | .gap _ _ => none

end AnchorIndex.Source
