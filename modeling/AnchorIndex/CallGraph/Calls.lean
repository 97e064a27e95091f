import AnchorIndex.Text.Lines
import AnchorIndex.Text.Search

/-!
# Calls in a function body

Calls are read off the masked body of a function. A call of a type's function is written with the
type, two colons and the name (`qualified?`). Those whose type and name are known are blanked out
(`takeQualified`); of what remains each name before an opening parenthesis is a call
(`callNames`), except for words that are no functions and for lines on which a function calls
others of its own type.

The dependencies of a function are the functions of the program that it may call, by identity,
and the names of functions that the program does not define. Both are sets of texts: they are
kept in order and without repetitions (`orderedSet`).
-/

namespace AnchorIndex.CallGraph

/-- The text after the type arguments between two pairs of colons. -/
def skipTypeArguments (cs : List Char) : List Char :=
  match Text.afterPiece? "::<".toList cs with
  | none => cs
  | some r =>
    match r.dropWhile (· != '>') with
    | _ :: after => if Text.startsWith [':', ':'] after then after else cs
    | [] => cs

/-- The text after an opening parenthesis that blanks may precede. -/
def afterParenthesis? (cs : List Char) : Option (List Char) :=
  Text.afterPiece? ['('] (Text.stripLeft cs)

/-- A call of a type's function at the start of a text: the type, the name, and the text after the
opening parenthesis. -/
def qualified? (cs : List Char) : Option (String × String × List Char) := do
  let (type, r) ← Text.name? cs
  let r ← Text.afterPiece? [':', ':'] (skipTypeArguments r)
  let (method, r) ← Text.name? r
  let rest ← afterParenthesis? r
  return (String.ofList type, String.ofList method, rest)

/-- A body in which some calls are blanked out, and the functions that those calls mean. -/
structure Taken where
  ids : List String
  body : List Char

/-- Goes through a body and blanks out the calls of types' functions that `targets` knows.
`inWord` tells whether the text goes on with a word that started before it, and the next `left`
characters belong to a call that is blanked out or kept. -/
def takeQualifiedFrom (targets : String → String → List String) (inWord : Bool) (left : Nat)
    (blanked : Bool) : List Char → Taken
  | [] => ⟨[], []⟩
  | c :: r =>
    match left with
    | left + 1 =>
      let t := takeQualifiedFrom targets (Text.isWordChar c) left blanked r
      { t with body := (if blanked then ' ' else c) :: t.body }
    | 0 =>
      match (if inWord then none else qualified? (c :: r)) with
      | none =>
        let t := takeQualifiedFrom targets (Text.isWordChar c) 0 false r
        { t with body := c :: t.body }
      | some (type, method, rest) =>
        let ids := targets type method
        let t := takeQualifiedFrom targets (Text.isWordChar c) (r.length - rest.length)
          (!ids.isEmpty) r
        ⟨ids ++ t.ids, (if ids.isEmpty then c else ' ') :: t.body⟩

/-- Blanks out the calls of types' functions that are known. -/
def takeQualified (targets : String → String → List String) (body : List Char) : Taken :=
  takeQualifiedFrom targets false 0 false body

/-- Words before a parenthesis that are no functions. -/
def wordsWithoutCall : List String :=
  ["Ok", "Some", "Err", "if", "else", "while", "for", "in", "match", "return", "loop", "let",
    "move", "as", "fn"]

/-- A name that stands before an opening parenthesis is a call of a function other than `own`. A
capital name around a tuple builds a value. -/
def isCall (own : String) (name after : List Char) : Bool :=
  let s := String.ofList name
  !wordsWithoutCall.contains s && s != own &&
    !((name.head?.any Char.isUpper) && Text.headIs '(' (Text.stripLeft after))

/-- The names that a line calls; `inName` tells whether the line goes on with a name that started
before it. -/
def lineCalls (own : String) (inName : Bool) : List Char → List String
  | [] => []
  | c :: r =>
    let rest := lineCalls own (Text.isNameChar c) r
    if inName then rest
    else
      match Text.name? (c :: r) with
      | none => rest
      | some (name, after) =>
        match afterParenthesis? after with
        | none => rest
        | some after => if isCall own name after then String.ofList name :: rest else rest

/-- The line calls functions of its own type. -/
def isOwnLine (line : List Char) : Bool :=
  Text.occurs "self.".toList line || Text.occurs "Self::".toList line

/-- The names that a body calls. -/
def callNames (own : String) (body : List Char) : List String :=
  ((Text.lines body).filter (!isOwnLine ·)).flatMap (lineCalls own false)

end AnchorIndex.CallGraph

namespace AnchorIndex

/-! ### Records -/

/-- The texts in increasing order, each of them once. -/
def orderedSet (xs : List String) : List String :=
  (xs.mergeSort fun a b => a ≤ b).eraseReps

namespace CallGraph

/-- The call edges of one function. -/
structure Record where
  ownerId : String
  functionName : String
  internal : List String
  external : List String
  deriving DecidableEq, Repr

/-- The record with the given edges. -/
def Record.ofEdges (ownerId functionName : String) (internal external : List String) : Record :=
  ⟨ownerId, functionName, orderedSet internal, orderedSet external⟩

end CallGraph

end AnchorIndex
