import AnchorIndex.Session.Basic
import AnchorIndex.Source.Entrypoint
import AnchorIndex.Source.Split

/-!
# Views of entrypoints

The view of an entrypoint shows the struct of its accounts, the record of that struct, and the
handler to which it hands over: the first handler with the same accounts struct whose name is a
word of the entrypoint's body.
-/

namespace AnchorIndex.Session

/-- An entrypoint with what belongs to it. -/
structure EntrypointView where
  name : String
  entrypoint : Entity
  context : Entity
  accounts : Option Account.Record
  handler : Option Entity

/-- The view of an entrypoint as a table. -/
def EntrypointView.toDatum (v : EntrypointView) : Datum :=
  .table
    [("name", .text v.name),
      ("entrypoint", v.entrypoint.toDatum),
      ("context_accounts", v.context.toDatum),
      ("accounts", (v.accounts.map (·.toDatum)).getD .null),
      ("handler", (v.handler.map (·.toDatum)).getD .null)]

/-- Two neighbouring characters, or an end of the text, are the border of a word. -/
def isBorder (before after : Option Char) : Bool :=
  (before.any Text.isWordChar) != (after.any Text.isWordChar)

/-- The characters `word` stand in a text between borders of words; `before` is the character in
front of the text. -/
def standsAsWord (word : List Char) (before : Option Char) (cs : List Char) : Bool :=
  let here :=
    match Text.afterPiece? word cs with
    | some rest => isBorder before cs.head? && isBorder (word.getLast?.or before) rest.head?
    | none => false
  match cs with
  | [] => here
  | c :: r => here || standsAsWord word (some c) r

/-- The name of the accounts struct in the first parameter of a function. -/
def parameterContext? (content : List Char) : Option (List Char) :=
  match Source.Function.parameters content with
  | p :: _ => Source.contextName? p
  | [] => none

/-- The first of some handlers whose name is a word of the body and that takes the accounts
struct. -/
def findHandler (body context : List Char) : List Entity → Action (Option Entity)
  | [] => return none
  | e :: rest => do
    if standsAsWord e.name.toList none body then
      if parameterContext? (← content e) = some context then return some e
      else findHandler body context rest
    else findHandler body context rest

/-- The name of the accounts struct on the first lines of an entrypoint. -/
def headContext? (content : List Char) : Option (List Char) :=
  Source.contextName? (Text.unlines ((Text.lines content).take Source.contextLines))

/-- The view of the entrypoint with a name. There has to be exactly one, and its accounts struct
has to be stored. -/
def entrypoint (name : String) : Action EntrypointView := do
  match ← onStore (Store.query .function (some name) (some .entrypoint)) with
  | [e] =>
    let text ← content e
    let context := headContext? text
    let structs ←
      match context with
      | some c =>
        if c.isEmpty then pure []
        else onStore (Store.query .struct (some (String.ofList c)) (some .contextAccounts))
      | none => pure []
    match structs with
    | [] => throw (.fault (.contextMissing name (String.ofList (context.getD []))))
    | struct :: _ =>
      let handlers ← onStore (Store.query .function none (some .handler))
      let handler ← findHandler (Source.Function.body text) (context.getD []) handlers
      let accounts ← onStore (Store.accountsOf? struct.id)
      return ⟨name, e, struct, accounts, handler⟩
  | found => throw (.fault (.entrypointMissing name found.length))

/-- The names of all entrypoints, in order. -/
def entrypointNames : Action (List String) := do
  let es ← onStore (Store.query .function none (some .entrypoint))
  return (es.map (·.name)).mergeSort fun a b => a ≤ b

end AnchorIndex.Session
