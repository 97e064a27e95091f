import AnchorIndex.Source.Split
import AnchorIndex.Source.Boundary

/-!
# Entrypoints and their contexts

The entrypoints of a program are the functions that lie inside its program module. An entrypoint
takes a context whose type argument names the struct of its accounts, on its first lines.
`contextName?` is the name in the first context that a text mentions: of the type arguments that
are not lifetimes the last one, without its own arguments.
-/

namespace AnchorIndex.Source

/-! ### Contexts -/

/-- The text after a mention of a context and its opening angle bracket, when the text starts with
one. -/
def afterContext? (cs : List Char) : Option (List Char) :=
  (Text.afterPiece? "Context".toList cs).bind fun r => Text.afterPiece? ['<'] (Text.stripLeft r)

/-- The text after the first mention of a context; `inWord` tells whether the text goes on with a
word that started before it. -/
def firstContext? (inWord : Bool) : List Char → Option (List Char)
  | [] => none
  | c :: r =>
    match (if inWord then none else afterContext? (c :: r)) with
    | some rest => some rest
    | none => firstContext? (Text.isWordChar c) r

/-- The name of the accounts struct in the first context of a text. -/
def contextName? (text : List Char) : Option (List Char) :=
  match firstContext? false text with
  | none => none
  | some rest =>
    match cutAtClosing? '<' '>' 1 rest with
    | none => none
    | some (inner, _) =>
      ((splitCommas true inner).reverse.find? (!Text.headIs '\'' ·)).map fun arg =>
        Text.strip (arg.takeWhile (· != '<'))

/-! ### Entrypoints -/

/-- An entrypoint with its first and last line, and the name of its accounts struct. -/
structure Entrypoint where
  name : String
  first : Nat
  last : Nat
  context : Option String
  deriving DecidableEq, Repr

/-- The context of an entrypoint is looked for on this many lines from its header on. -/
def contextLines : Nat := 2

/-- The entrypoints in the text of a program's library file, in the order of the text. -/
def entrypoints (text : String) : List Entrypoint :=
  match programModule? text with
  | none => []
  | some (first, last) =>
    let lines := Text.lines text.toList
    ((scan .function text).filter fun f => first < f.first && f.last < last).map fun f =>
      let head := Text.unlines ((lines.drop (f.first - 1)).take contextLines)
      ⟨f.name, f.first, f.last, (contextName? head).map String.ofList⟩

end AnchorIndex.Source
