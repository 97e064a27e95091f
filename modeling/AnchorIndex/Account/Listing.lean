import AnchorIndex.Account.Field

/-!
# The accounts of a struct

The text of an accounts struct is cut into one chunk for each field, which holds the attributes
and comments above the declaration and the declaration itself (`chunks`). Cutting goes line by
line: `Cutter` is its state. Each chunk is decoded on its own (`fields`).
-/

namespace AnchorIndex.Account

/-- The state of cutting between two lines: the depth of braces, the depth of parentheses and
brackets, whether a declaration has begun, the lines of the present chunk in reverse, and the
chunks before it in reverse. -/
structure Cutter where
  depth : Int
  nesting : Int
  declaring : Bool
  pending : List (List Char)
  chunks : List (List Char)

/-- The lines of the present chunk as one text. -/
def Cutter.pendingText (s : Cutter) : List Char :=
  Text.stripRight (Text.unlines s.pending.reverse)

/-- The text without one closing brace at its end. -/
def withoutBrace (cs : List Char) : List Char :=
  let t := Text.stripRight cs
  Text.stripRight (if Text.lastIs '}' t then t.dropLast else t)

/-- The line is part of an attribute or a comment, or goes on with one. -/
def continues (nesting : Int) (stripped : List Char) : Bool :=
  nesting > 0 || Text.headIs '#' stripped || Text.startsWith ['/', '/'] stripped ||
    stripped.isEmpty

/-- The chunks after the last line. -/
def Cutter.finish (s : Cutter) : List (List Char) :=
  (if !s.pending.isEmpty && s.declaring then s.pendingText :: s.chunks else s.chunks).reverse

/-- A line that belongs to the present chunk: the state after it. -/
def Cutter.take (s : Cutter) (depth : Int) (raw masked : List Char) : Cutter :=
  let stripped := Text.strip masked
  let s : Cutter :=
    { s with
      depth := depth
      nesting := s.nesting + nestingStep masked
      pending := raw :: s.pending }
  if continues s.nesting stripped then s
  else
    let declaring := s.declaring || (fieldName? stripped).isSome
    if declaring && (Text.lastIs ',' stripped || depth < 1) then
      let chunk := if depth < 1 then withoutBrace s.pendingText else s.pendingText
      { s with declaring := false, pending := [], chunks := chunk :: s.chunks }
    else { s with declaring := declaring }

/-- The chunks of the lines from a state on, each line given with its mask. Lines before the
opening brace belong to no field, and the cutting ends at the brace that closes the struct. -/
def cutFrom (s : Cutter) : List (List Char × List Char) → List (List Char)
  | [] => s.finish
  | (raw, masked) :: rest =>
    let depth := s.depth + (occurrences '{' masked - occurrences '}' masked)
    let stripped := Text.strip masked
    if s.depth = 0 then cutFrom { s with depth := depth } rest
    else if s.depth = 1 ∧ depth < 1 ∧ (Text.strip (Text.stripLast '}' stripped)).isEmpty then
      s.finish
    else if stripped.isEmpty ∧ s.pending.isEmpty then cutFrom { s with depth := depth } rest
    else
      let next := s.take depth raw masked
      if !continues next.nesting stripped && depth < 1 then next.finish
      else cutFrom next rest

/-- The text of a struct cut into one chunk for each field. -/
def chunks (content : List Char) : List (List Char) :=
  let lines := Text.lines content
  cutFrom ⟨0, 0, false, [], []⟩ (lines.zip (Source.maskLines lines))

/-- The account fields of a struct, in the order of declaration, or the first chunk that declares
no field. -/
def fields (content : List Char) : Except (List Char) (List Field) :=
  (chunks content).mapM fun chunk =>
    match Field.ofText? chunk with
    | some f => .ok f
    | none => .error chunk

end AnchorIndex.Account
