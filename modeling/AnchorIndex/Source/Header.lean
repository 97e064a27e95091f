import AnchorIndex.Entity.Basic
import AnchorIndex.Text.Search

/-!
# Headers

The header of a construct is the start of the line on which it begins, from its visibility to its
name. `header?` reads the header of a kind from a trimmed masked line and answers the name. An
implementation has no name of its own: it is named by the text between its generic parameters and
its body or bounds, as a single line (`implementationName?`).
-/

namespace AnchorIndex.Source

/-- The text after a visibility, or the text itself when it has none. A visibility may be narrowed
in parentheses. -/
def skipVisibility (cs : List Char) : List Char :=
  match Text.afterPiece? ['p', 'u', 'b'] cs with
  | none => cs
  | some rest =>
    let after :=
      match Text.stripLeft rest with
      | '(' :: r =>
        match r.dropWhile (· != ')') with
        | ')' :: r => r
        | _ => rest
      | _ => rest
    (Text.afterBlanks? after).getD cs

/-- The words that may stand before a function in any order. -/
def functionModifiers : List (List Char) :=
  ["default".toList, "const".toList, "async".toList, "unsafe".toList]

/-- The text after modifiers of a function. -/
def skipModifiers (cs : List Char) : List Char :=
  match _h : functionModifiers.findSome? fun w => Text.afterWord? w cs with
  | none => cs
  | some rest => skipModifiers rest
termination_by cs.length
decreasing_by
  obtain ⟨w, _, hw⟩ := List.exists_of_findSome?_eq_some _h
  exact Text.length_lt_of_afterWord? hw

/-- The text after the calling convention of a function. -/
def skipConvention (cs : List Char) : List Char :=
  match Text.afterWord? "extern".toList cs with
  | none => cs
  | some rest =>
    match rest with
    | '"' :: r =>
      match r.dropWhile (· != '"') with
      | '"' :: r => (Text.afterBlanks? r).getD rest
      | _ => rest
    | _ => rest

/-- The name after a keyword. -/
def nameAfter? (keyword cs : List Char) : Option String :=
  ((Text.afterWord? keyword cs).bind Text.name?).map fun (name, _) => String.ofList name

/-! ### Implementations -/

/-- The text after the angle bracket that closes `depth` open ones, if there is one. -/
def afterAngles? (depth : Int) : List Char → Option (List Char)
  | [] => none
  | c :: r =>
    if c = '<' then afterAngles? (depth + 1) r
    else if c = '>' then (if depth = 1 then some r else afterAngles? (depth - 1) r)
    else afterAngles? depth r

/-- The text after a list of generic parameters. When the list is not closed nothing is left. -/
def skipGenerics (cs : List Char) : List Char :=
  match Text.stripLeft cs with
  | '<' :: r => Text.stripLeft ((afterAngles? 1 r).getD [])
  | r => r

/-- The text starts with the given word and no longer one. -/
def startsWithWord (word cs : List Char) : Bool :=
  match Text.afterPiece? word cs with
  | none => false
  | some [] => true
  | some (c :: _) => !Text.isWordChar c

/-- The text before the first occurrence of a word; `inWord` tells whether the text goes on with a
word that started before it. -/
def beforeWord (word : List Char) (inWord : Bool) : List Char → List Char
  | [] => []
  | c :: r =>
    if !inWord && startsWithWord word (c :: r) then []
    else c :: beforeWord word (Text.isWordChar c) r

/-- The name of an implementation, given the text after its keyword. -/
def implementationName? (rest : List Char) : Option String :=
  let head := (skipGenerics rest).takeWhile (· != '{')
  let name := Text.squeeze (beforeWord "where".toList false head)
  if name.isEmpty then none else some (String.ofList name)

/-- The name of an implementation with this header. -/
def implementationHeader? (cs : List Char) : Option String :=
  match Text.afterPiece? "impl".toList (Text.skipWord "unsafe".toList cs) with
  | none => none
  | some [] => implementationName? []
  | some (c :: r) => if Text.isWordChar c then none else implementationName? (c :: r)

/-! ### Kinds of headers -/

/-- The name of a construct of the kind whose header starts the line. -/
def header? (kind : Kind) (line : List Char) : Option String :=
  match kind with
  | .function =>
    nameAfter? "fn".toList (skipConvention (skipModifiers (skipVisibility line)))
  | .struct => nameAfter? "struct".toList (skipVisibility line)
  | .trait =>
    nameAfter? "trait".toList
      (Text.skipWord "auto".toList (Text.skipWord "unsafe".toList (skipVisibility line)))
  | .implementation => implementationHeader? line
  | .enumeration => nameAfter? "enum".toList (skipVisibility line)

/-- The name of a module whose header starts the line. -/
def moduleHeader? (line : List Char) : Option String :=
  nameAfter? "mod".toList (skipVisibility line)

end AnchorIndex.Source
