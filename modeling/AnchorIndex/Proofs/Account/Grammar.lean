import AnchorIndex.Account.Field
import Mathlib.Data.List.Forall2

/-!
# The grammar of account fields

The text of an account field is made of attributes and a declaration. An attribute holds items,
which are flags, assignments and lists of seeds (`IsAttribute`, `IsItem`), and a declaration holds
a name and a type (`IsDeclaration`). Values, errors and arguments of types are texts with
well-nested brackets (`IsNested`). Blanks may stand around each part. Nothing here refers to the
way in which a field is decoded.
-/

namespace AnchorIndex.Account

open Text (isBlank allBlank isNameStart isNameChar)

/-! ### Nested texts -/

/-- The kinds of brackets. -/
inductive Bracket where
  | round
  | square
  | curly
  | angle
  deriving DecidableEq

/-- The character that opens a bracket. -/
def Bracket.opening : Bracket → Char
  | round => '('
  | square => '['
  | curly => '{'
  | angle => '<'

/-- The character that closes a bracket. -/
def Bracket.closing : Bracket → Char
  | round => ')'
  | square => ']'
  | curly => '}'
  | angle => '>'

/-- The character is no quote, no comma and no bracket. Angle brackets are brackets if `angles`
says so. -/
def IsPlain (angles : Bool) (c : Char) : Prop :=
  c ∉ ['"', '\'', ',', '(', ')', '[', ']', '{', '}'] ∧ (angles = true → c ≠ '<' ∧ c ≠ '>')

/-- The content of a text literal has no quotes, no backslashes and no brackets. -/
def IsContent (cs : List Char) : Prop :=
  ∀ c ∈ cs, c ∉ ['"', '\\', '(', ')', '[', ']', '{', '}']

/-- The brackets of the text are well nested, and it has no comments. With `angles` it is the text
of types: angle brackets are brackets but for the tips of arrows, and there may be lifetimes.
Without, it is the text of expressions, and there may be text literals. Commas stand inside
brackets only, unless the text itself does. -/
inductive IsNested (angles : Bool) : Bool → List Char → Prop
  | nil {inside : Bool} : IsNested angles inside []
  | plain {inside : Bool} {c : Char} {cs : List Char} (isPlain : IsPlain angles c)
    (no_comment : c = '/' → ∀ d ∈ cs.head?, d ≠ '/' ∧ d ≠ '*')
    (no_opening : c = 'r' → ∀ hashes rest, cs ≠ List.replicate hashes '#' ++ '"' :: rest)
    (more : IsNested angles inside cs) : IsNested angles inside (c :: cs)
  | comma {cs : List Char} (more : IsNested angles true cs) : IsNested angles true (',' :: cs)
  | group {inside : Bool} {inner cs : List Char} (b : Bracket)
    (counts : b = .angle → angles = true) (isNested : IsNested angles true inner)
    (no_arrow : b = .angle → ∀ c ∈ inner.getLast?, c ≠ '-' ∧ c ≠ '=')
    (more : IsNested angles inside cs) :
    IsNested angles inside (b.opening :: (inner ++ b.closing :: cs))
  | literal {inside : Bool} {content cs : List Char} (expression : angles = false)
    (isContent : IsContent content) (more : IsNested angles inside cs) :
    IsNested angles inside ('"' :: (content ++ '"' :: cs))
  | rawLiteral {inside : Bool} {content cs : List Char} (expression : angles = false)
    (hashes : Nat) (isContent : IsContent content) (more : IsNested angles inside cs) :
    IsNested angles inside ('r' :: (List.replicate hashes '#' ++ '"' :: (content
      ++ '"' :: (List.replicate hashes '#' ++ cs))))
  | lifetime {inside : Bool} {cs : List Char} (type : angles = true)
    (start : ∃ c ∈ cs.head?, isNameStart c = true) (no_literal : cs[1]? ≠ some '\'')
    (more : IsNested angles inside cs) : IsNested angles inside ('\'' :: cs)
  | arrow {inside : Bool} {c : Char} {cs : List Char} (type : angles = true)
    (shaft : c = '-' ∨ c = '=') (more : IsNested angles inside cs) :
    IsNested angles inside (c :: '>' :: cs)

/-- A list of parts with commas between them, and maybe one behind the last part. -/
def IsSeparated (parts : List (List Char)) (text : List Char) : Prop :=
  text = Text.joinWith ',' parts
    ∨ ∃ blanks, allBlank blanks = true ∧ text = Text.joinWith ',' (parts ++ [blanks])

/-! ### Attributes -/

/-- What an item of an attribute says. Values and items are given on one line. -/
inductive Item where
  | flag (name : List Char)
  | assignment (key value line : List Char)
  | seeds (elements : List (List Char))
  deriving DecidableEq

/-- A name starts with a letter or a low line and goes on with these and digits. -/
def IsName (cs : List Char) : Prop :=
  ∃ c rest, cs = c :: rest ∧ isNameStart c = true ∧ ∀ d ∈ rest, isNameChar d = true

/-- A key is a name or several with colons between them. -/
def IsKey (cs : List Char) : Prop :=
  ∃ c rest, cs = c :: rest ∧ isNameStart c = true ∧ ∀ d ∈ rest, isKeyChar d = true

/-- A value is an expression in which no error is named. -/
def IsValue (cs : List Char) : Prop :=
  IsNested false false cs ∧ '@' ∉ cs

/-- The error that an item names, if it names one. -/
def IsError (cs : List Char) : Prop :=
  cs = [] ∨ ∃ error, cs = '@' :: error ∧ IsValue error

/-- The text of an item, with blanks around it. -/
inductive IsItem : List Char → Item → Prop
  | flag {before name gap error : List Char} (before_blank : allBlank before = true)
    (isName : IsName name) (gap_blank : allBlank gap = true) (isError : IsError error) :
    IsItem (before ++ (name ++ (gap ++ error))) (.flag name)
  | assignment {before key gap value error : List Char} (before_blank : allBlank before = true)
    (isKey : IsKey key) (no_seeds : key ≠ "seeds".toList) (gap_blank : allBlank gap = true)
    (isValue : IsValue value) (no_comparison : (Text.stripLeft value).head? ≠ some '=')
    (isError : IsError error) :
    IsItem (before ++ (key ++ (gap ++ '=' :: (value ++ error))))
      (.assignment key (Text.squeeze value)
        (Text.squeeze (key ++ (gap ++ '=' :: (value ++ error)))))
  | seeds {before gap₁ gap₂ list after : List Char} {elements : List (List Char)}
    (before_blank : allBlank before = true) (gap₁_blank : allBlank gap₁ = true)
    (gap₂_blank : allBlank gap₂ = true) (isSeparated : IsSeparated elements list)
    (isValue : ∀ e ∈ elements, IsValue e ∧ allBlank e = false)
    (after_blank : allBlank after = true) :
    IsItem (before ++ ("seeds".toList ++ (gap₁ ++ '=' :: (gap₂ ++ '[' :: (list ++ ']' :: after)))))
      (.seeds (elements.map Text.squeeze))

/-- The text of an attribute with these items. It begins on a line of its own, and nothing stands
behind it on its last line. -/
inductive IsAttribute : List Char → List Item → Prop
  | intro {indent body gap : List Char} {texts : List (List Char)} {items : List Item}
    (indent_blank : allBlank indent = true) (isItem : List.Forall₂ IsItem texts items)
    (isSeparated : IsSeparated texts body) (gap_blank : allBlank gap = true) :
    IsAttribute (indent ++ ("#[account(".toList ++ (body ++ (')' :: ']' :: (gap ++ ['\n']))))) items

/-! ### Declarations -/

/-- A path of names with colons between them. -/
def IsPath (cs : List Char) : Prop :=
  cs ≠ [] ∧ ∀ c ∈ cs, isKeyChar c = true

/-- The account type that a path with arguments stands for: of the arguments, the first counts if
it is a lifetime, and the first one that is none. -/
def genericType (path : List Char) (arguments : List (List Char)) : AccountType where
  wrapper := String.ofList path
  lifetime := (arguments.head?.filter (Text.headIs '\'')).map String.ofList
  inner := String.ofList ((arguments.find? (!Text.headIs '\'' ·)).getD path)

/-- The text of a path, with or without arguments, and the account type that it stands for. -/
inductive IsPathType : List Char → AccountType → Prop
  | path {path : List Char} (isPath : IsPath path) :
    IsPathType path ⟨String.ofList path, none, String.ofList path⟩
  | generic {path list : List Char} {arguments : List (List Char)} (isPath : IsPath path)
    (isSeparated : IsSeparated arguments list)
    (isNested : ∀ a ∈ arguments, IsNested true false a ∧ allBlank a = false) :
    IsPathType (path ++ '<' :: (list ++ ['>'])) (genericType path (arguments.map Text.squeeze))

/-- The text of a type: a path with or without arguments, or a box of one. -/
inductive IsType : List Char → AccountType → Prop
  | unboxed {cs : List Char} {type : AccountType} (isPathType : IsPathType cs type)
    (no_box : ¬ "Box<".toList <+: cs) : IsType cs type
  | boxed {before cs after : List Char} {type : AccountType} (before_blank : allBlank before = true)
    (isPathType : IsPathType cs type) (after_blank : allBlank after = true) :
    IsType ("Box<".toList ++ (before ++ (cs ++ (after ++ ['>'])))) type

/-- The visibility of a field, with the blanks behind it. -/
inductive IsVisibility : List Char → Prop
  | none : IsVisibility []
  | pub {gap : List Char} (gap_blank : allBlank gap = true) (ne_nil : gap ≠ []) :
    IsVisibility ("pub".toList ++ gap)
  | crate {gap : List Char} (gap_blank : allBlank gap = true) (ne_nil : gap ≠ []) :
    IsVisibility ("pub(crate)".toList ++ gap)

/-- The text of the declaration of a field with this name and type. The colon stands on the line
of the name, and no attribute of accounts begins in the type. -/
inductive IsDeclaration : List Char → List Char → AccountType → Prop
  | intro {indent visibility name gap before cs comma after : List Char} {type : AccountType}
    (indent_blank : allBlank indent = true) (isVisibility : IsVisibility visibility)
    (visibility_line : '\n' ∉ visibility) (isName : IsName name) (gap_blank : allBlank gap = true)
    (gap_line : '\n' ∉ gap) (before_blank : allBlank before = true)
    (no_path : (before ++ cs).head? ≠ some ':') (isType : IsType cs type)
    (no_attribute : ¬ attributeStart <:+: cs)
    (comma_cases : comma = [] ∨ ∃ blanks, allBlank blanks = true ∧ comma = blanks ++ [','])
    (after_blank : allBlank after = true) :
    IsDeclaration
      (indent ++ (visibility ++ (name ++ (gap ++ ':' :: (before ++ (cs ++ (comma ++ after)))))))
      name type

end AnchorIndex.Account
