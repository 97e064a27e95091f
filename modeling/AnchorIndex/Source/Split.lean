import AnchorIndex.Text.Search

/-!
# Splitting outside brackets

A list in a source text is split at the separators that stand outside all brackets and outside
text literals (`splitTopLevel`). `Nesting` is what reading a character needs to know about the
characters before it. Angle brackets are brackets in lists of types and comparison signs in
expressions, so the caller says whether they count; the tip of an arrow never does.

The text of a function has a signature, which ends at the arrow before its result or at the brace
that opens its body (`Function.signature`), and a body between the outer braces (`Function.body`).
The parameters are the items between the parentheses of the signature, each on one line
(`Function.parameters`).
-/

namespace AnchorIndex.Source

/-- Where a position of a list stands: the number of open brackets, whether it lies in a text
literal, and the character before it. -/
structure Nesting where
  depth : Int
  quoted : Bool
  previous : Option Char

/-- The start of a list. -/
def Nesting.start : Nesting := ⟨0, false, none⟩

/-- The change of depth at a character outside text literals. -/
def bracketStep (angles : Bool) (previous : Option Char) (c : Char) : Int :=
  if c = '(' ∨ c = '[' ∨ c = '{' then 1
  else if c = ')' ∨ c = ']' ∨ c = '}' then -1
  else if angles && c == '<' then 1
  else if angles && c == '>' && previous != some '-' && previous != some '=' then -1
  else 0

/-- The position after a character. -/
def Nesting.feed (angles : Bool) (n : Nesting) (c : Char) : Nesting :=
  if n.quoted then ⟨n.depth, !(c == '"' && n.previous != some '\\'), some c⟩
  else if c = '"' then ⟨n.depth, true, some c⟩
  else ⟨n.depth + bracketStep angles n.previous c, false, some c⟩

/-- The character splits the list: it is a separator outside literals, and no bracket is open
after it. -/
def Nesting.splitsAt (isSeparator : Char → Bool) (angles : Bool) (n : Nesting) (c : Char) : Bool :=
  !n.quoted && isSeparator c && (n.feed angles c).depth == 0

/-- The character in front of the first piece. -/
def consFirst (c : Char) : List (List Char) → List (List Char)
  | [] => [[c]]
  | p :: ps => (c :: p) :: ps

/-- The pieces of a list from a position on. -/
def piecesFrom (isSeparator : Char → Bool) (angles : Bool) (n : Nesting) :
    List Char → List (List Char)
  | [] => [[]]
  | c :: r =>
    let rest := piecesFrom isSeparator angles (n.feed angles c) r
    if n.splitsAt isSeparator angles c then [] :: rest else consFirst c rest

/-- The trimmed pieces of a list that are not empty. -/
def splitTopLevel (isSeparator : Char → Bool) (angles : Bool) (cs : List Char) :
    List (List Char) :=
  ((piecesFrom isSeparator angles .start cs).map Text.strip).filter (!·.isEmpty)

/-- The items of a list that is separated by commas. -/
def splitCommas (angles : Bool) (cs : List Char) : List (List Char) :=
  splitTopLevel (· == ',') angles cs

/-- The text up to the bracket that closes `depth` open ones, and the text from that bracket
on. -/
def cutAtClosing? (opening closing : Char) (depth : Int) :
    List Char → Option (List Char × List Char)
  | [] => none
  | c :: r =>
    let depth := if c = opening then depth + 1 else if c = closing then depth - 1 else depth
    if c = closing ∧ depth = 0 then some ([], c :: r)
    else
      match cutAtClosing? opening closing depth r with
      | some (inner, rest) => some (c :: inner, rest)
      | none => none

end AnchorIndex.Source

namespace AnchorIndex.Source.Function

/-! ### Parts of a function -/

/-- The text before the body and before the result, trimmed. -/
def signature (content : List Char) : List Char :=
  Text.strip (Text.before ['-', '>'] (content.takeWhile (· != '{')))

/-- The text between the first brace and a brace at the end, trimmed; nothing when there is no
brace. -/
def body (content : List Char) : List Char :=
  match content.dropWhile (· != '{') with
  | [] => []
  | _ :: r =>
    let inner := Text.stripRight r
    Text.strip (if Text.lastIs '}' inner then inner.dropLast else inner)

/-- The parameters of a function, receiver included. A signature whose first parenthesis is not
closed has none. -/
def parameters (content : List Char) : List (List Char) :=
  match (signature content).dropWhile (· != '(') with
  | [] => []
  | _ :: r =>
    match cutAtClosing? '(' ')' 1 r with
    | none => []
    | some (inner, _) => (splitCommas true inner).map Text.squeeze

end AnchorIndex.Source.Function
