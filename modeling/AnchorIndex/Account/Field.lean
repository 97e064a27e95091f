import AnchorIndex.Source.Split
import AnchorIndex.Source.Mask
import AnchorIndex.Source.Header
import AnchorIndex.Text.Quoted

/-!
# Account fields

The attributes of an account field hold constraints, separated by commas: a constraint is a key with
a value, or a flag, and either may name the error that its violation raises. The field is declared
by a name and a type on the first line that is outside its attributes (`declaration?`). The type
wraps an account: `AccountType` holds the wrapper, the lifetime it mentions first and the type it
wraps. A box around a type is no wrapper.

An account field is decoded from its declaration and its constraints (`Field.ofText?`), which tell
whether the account is initialised, changed or closed, from which seeds its address is derived, who
pays for it, and what is validated. The accounts record of a struct holds the fields of the struct
in their order, under the identity of the struct.
-/

namespace AnchorIndex.Account

/-! ### Constraints -/

/-- An attribute of accounts starts with these characters. -/
def attributeStart : List Char :=
  "#[account".toList

/-- The text after the opening parenthesis of an attribute, given the text from its start on; the
parenthesis has to come before any closing bracket. -/
def attributeContent? (cs : List Char) : Option (List Char) :=
  match cs.dropWhile (fun c => c != '(' && c != ']') with
  | '(' :: r => some r
  | _ => none

/-- The contents of the account attributes in a text of at most `fuel` characters. An attribute
that is not closed ends the search. -/
def attributeBodiesWithin : Nat → List Char → List (List Char)
  | 0, _ => []
  | fuel + 1, cs =>
    match Text.cutAt? attributeStart cs with
    | none => []
    | some (_, rest) =>
      match attributeContent? rest with
      | none => attributeBodiesWithin fuel rest
      | some inner =>
        match Source.cutAtClosing? '(' ')' 1 inner with
        | none => []
        | some (body, after) => body :: attributeBodiesWithin fuel after

/-- The contents of the account attributes in a text. Each attribute takes up some characters, so
the length of the text bounds their number. -/
def attributeBodies (text : List Char) : List (List Char) :=
  attributeBodiesWithin (text.length + 1) text

/-- One constraint of an attribute. -/
inductive Constraint where
  /-- A word or another text without a value. -/
  | flag (name : List Char)
  /-- A key with its value; `item` is the whole constraint on one line. -/
  | assignment (key value item : List Char)
  deriving DecidableEq, Repr

/-- The text before a custom error, trimmed. -/
def withoutError (cs : List Char) : List Char :=
  Text.strip (cs.takeWhile (· != '@'))

/-- A character of a key after its first one. -/
def isKeyChar (c : Char) : Bool :=
  Text.isNameChar c || c == ':'

/-- The key and the value of an item that is an assignment and no comparison. -/
def keyValue? : List Char → Option (List Char × List Char)
  | [] => none
  | c :: r =>
    if Text.isNameStart c then
      match Text.stripLeft (r.dropWhile isKeyChar) with
      | '=' :: '=' :: _ => none
      | '=' :: value => some (c :: r.takeWhile isKeyChar, Text.strip value)
      | _ => none
    else none

/-- Reads a constraint from an item on one line. -/
def Constraint.ofItem (item : List Char) : Constraint :=
  match keyValue? item with
  | some (key, value) => .assignment key value item
  | none => .flag (withoutError item)

/-- The constraints in the account attributes of a text, in order. -/
def constraints (text : List Char) : List Constraint :=
  (attributeBodies text).flatMap fun body =>
    (Source.splitCommas false body).map fun item => .ofItem (Text.squeeze item)

/-- The seeds in a bracketed list, each on one line; none when the value is no such list. -/
def seedList (value : List Char) : List (List Char) :=
  let list := Text.strip value
  if Text.headIs '[' list && Text.lastIs ']' list then
    (Source.splitCommas false (list.drop 1).dropLast).map Text.squeeze
  else []

/-! ### Declarations -/

/-- A name at the start of the text with a single colon after it. -/
def nameBeforeColon? (cs : List Char) : Option (List Char) :=
  match Text.name? cs with
  | none => none
  | some (name, rest) =>
    match Text.stripLeft rest with
    | ':' :: ':' :: _ => none
    | ':' :: _ => some name
    | _ => none

/-- The name of the field that a trimmed line declares. A name that reads like a visibility is a
name when nothing else can be. -/
def fieldName? (line : List Char) : Option (List Char) :=
  (nameBeforeColon? (Source.skipVisibility line)).or (nameBeforeColon? line)

/-- The number of times a character occurs. -/
def occurrences (c : Char) (cs : List Char) : Int :=
  cs.count c

/-- The change of the depth of parentheses and brackets over a line. -/
def nestingStep (line : List Char) : Int :=
  occurrences '[' line + occurrences '(' line - occurrences ']' line - occurrences ')' line

/-- The text after its first colon. -/
def afterColon (cs : List Char) : List Char :=
  (cs.dropWhile (· != ':')).drop 1

/-- The name and type that masked lines declare, the first line standing at a depth of
brackets. -/
def declarationFrom? (depth : Int) : List (List Char) → Option (List Char × List Char)
  | [] => none
  | line :: rest =>
    let stripped := Text.strip line
    match (if depth = 0 && !Text.headIs '#' stripped then fieldName? stripped else none) with
    | some name =>
      let type := afterColon (Text.joinWith ' ' (line :: rest))
      some (name, Text.strip (Text.stripLast ',' (Text.strip type)))
    | none => declarationFrom? (depth + nestingStep line) rest

/-- The name and the type of the field that a text declares. -/
def declaration? (text : List Char) : Option (List Char × List Char) :=
  declarationFrom? 0 (Source.maskLines (Text.lines text))

/-! ### Types -/

/-- The type of an account field. -/
structure AccountType where
  wrapper : String
  lifetime : Option String
  inner : String
  deriving DecidableEq, Repr

/-- The type inside a box. -/
def unbox (type : List Char) : List Char :=
  match Text.afterPiece? "Box<".toList type with
  | some rest => if Text.lastIs '>' type then Text.strip rest.dropLast else type
  | none => type

/-- Reads the type of an account field. A type without arguments wraps itself. -/
def AccountType.ofText (text : List Char) : AccountType :=
  let type := unbox (Text.squeeze text)
  if !type.contains '<' || !Text.lastIs '>' type then
    ⟨String.ofList type, none, String.ofList type⟩
  else
    let wrapper := Text.strip (type.takeWhile (· != '<'))
    let args := Source.splitCommas true ((type.dropWhile (· != '<')).drop 1).dropLast
    let lifetime := args.head?.filter (Text.headIs '\'')
    let inner := (args.find? (!Text.headIs '\'' ·)).getD wrapper
    ⟨String.ofList wrapper, lifetime.map String.ofList, String.ofList inner⟩

/-! ### Fields -/

/-- One account of an accounts struct. -/
structure Field where
  name : String
  wrapper : String
  inner : String
  lifetime : Option String
  isInit : Bool
  isMut : Bool
  isClose : Bool
  isDerived : Bool
  seeds : List String
  rentPayer : Option String
  validations : List String
  deriving DecidableEq, Repr

/-- The flags of an account that is created. -/
def initFlags : List (List Char) :=
  ["init".toList, "init_if_needed".toList, "init_if_necessary".toList]

/-- The keys of constraints that validate an account. -/
def validationKeys : List (List Char) :=
  ["constraint".toList, "has_one".toList, "address".toList]

/-- A constraint is one of the given flags. -/
def Constraint.isFlag (names : List (List Char)) : Constraint → Bool
  | flag name => names.contains name
  | assignment _ _ _ => false

/-- The value of a constraint with the given key. -/
def Constraint.value? (key : List Char) : Constraint → Option (List Char)
  | flag _ => none
  | assignment k value _ => if k = key then some value else none

/-- The constraint as a validation. -/
def Constraint.validation? : Constraint → Option (List Char)
  | flag _ => none
  | assignment k _ item => if validationKeys.contains k then some item else none

/-- The last value among constraints with the given key, without its error. -/
def lastValue? (key : List Char) (cs : List Constraint) : Option String :=
  (cs.filterMap (Constraint.value? key)).getLast?.map fun v => String.ofList (withoutError v)

/-- The account field that a declaration and its constraints describe. -/
def Field.ofParts (name : List Char) (type : AccountType) (cs : List Constraint) : Field :=
  let seeds := (cs.filterMap (Constraint.value? "seeds".toList)).flatMap seedList
  let close := lastValue? "close".toList cs
  { name := String.ofList name
    wrapper := type.wrapper
    inner := type.inner
    lifetime := type.lifetime
    isInit := cs.any (Constraint.isFlag initFlags)
    isMut := cs.any (Constraint.isFlag ["mut".toList])
    isClose := close.isSome
    isDerived := !seeds.isEmpty
    seeds := seeds.map String.ofList
    rentPayer := (lastValue? "payer".toList cs).or close
    validations := (cs.filterMap Constraint.validation?).map String.ofList }

/-- Decodes the text of one account field; there is none when the text declares no field. -/
def Field.ofText? (text : List Char) : Option Field :=
  (declaration? text).map fun (name, type) =>
    .ofParts name (.ofText type) (constraints text)

/-- What is said of a text that declares no field. -/
def noDeclaration (text : List Char) : String :=
  "No field declaration in " ++ Text.quote (String.ofList text)

/-! ### Records -/

/-- The decoded fields of one accounts struct. -/
structure Record where
  structId : String
  name : String
  accounts : List Field
  deriving DecidableEq, Repr

end AnchorIndex.Account
