import AnchorIndex.Yaml.Scalar

/-!
# Tokens

A text is cut into tokens. Where lines start shows how blocks are nested, so the start and the
end of a block are tokens too, though no character stands for them. That a token was the key of a
mapping shows only at the colon after it: each place at which a key may start is remembered
(`KeyPlace`), and the colon puts the tokens of the key there.

`Token.scan?` answers the tokens of a text, or nothing when the text is malformed.
-/

namespace AnchorIndex.Yaml

/-- The tag of a node. -/
inductive Tag where
  /-- The tag that leaves a scalar to be read as if it were plain. -/
  | nonSpecific
  /-- A tag of the standard types. -/
  | standard (name : String)
  /-- Any other tag. -/
  | foreign
  deriving DecidableEq, Repr

/-- A token. -/
inductive Token where
  | sequenceStart
  | mappingStart
  | blockEnd
  | flowSequenceStart
  | flowSequenceEnd
  | flowMappingStart
  | flowMappingEnd
  | item
  | comma
  | key
  | value
  | named (anchor : String)
  | repeated (anchor : String)
  | tag (t : Tag)
  | scalar (text : String) (plain : Bool)
  | directive
  | documentStart
  | documentEnd
  deriving DecidableEq, Repr

/-- A place at which a key may start: how many tokens come before it, and whether nothing but a
key can stand there. -/
structure KeyPlace where
  number : Nat
  required : Bool
  index : Nat
  line : Nat
  column : Nat
  deriving DecidableEq, Repr

/-- The state of scanning. -/
structure Scanner where
  cursor : Cursor
  /-- The tokens so far, the latest first. -/
  tokens : List Token
  count : Nat
  /-- How many flow brackets are open. -/
  flow : Nat
  indent : Int
  /-- The indentations of the blocks around the present one. -/
  outer : List Int
  keyAllowed : Bool
  /-- The places at which keys may start, by the number of open brackets. -/
  places : List (Nat × KeyPlace)

namespace Scanner

/-- Scanning starts before the first character. -/
def start (cs : List Char) : Scanner where
  cursor := .start cs
  tokens := []
  count := 0
  flow := 0
  indent := -1
  outer := []
  keyAllowed := true
  places := []

/-- Adds a token. -/
def push (t : Token) (s : Scanner) : Scanner :=
  { s with tokens := t :: s.tokens, count := s.count + 1 }

/-- Adds a token before the tokens from a number on. -/
def insertAt (number : Nat) (t : Token) (s : Scanner) : Scanner :=
  let later := s.count - number
  { s with tokens := s.tokens.take later ++ t :: s.tokens.drop later, count := s.count + 1 }

/-- Moves past some characters. -/
def skip (n : Nat) (s : Scanner) : Scanner :=
  { s with cursor := s.cursor.skip n }

/-- A key may start at the cursor, or may not. -/
def allowKey (allowed : Bool) (s : Scanner) : Scanner :=
  { s with keyAllowed := allowed }

/-! ### Places of keys -/

/-- A key is on one line and has at most this many characters. -/
def maxKeyLength : Nat := 1024

/-- Forgets the places of keys that have become too long. -/
def dropStale? (s : Scanner) : Option Scanner :=
  let isStale (p : KeyPlace) : Bool :=
    p.line != s.cursor.line || maxKeyLength < s.cursor.index - p.index
  if s.places.any fun (_, p) => isStale p && p.required then none
  else some { s with places := s.places.filter fun (_, p) => !isStale p }

/-- Forgets the place of a key inside the present brackets. A required key may not be lost. -/
def dropPlace? (s : Scanner) : Option Scanner :=
  match s.places.lookup s.flow with
  | some p =>
    if p.required then none
    else some { s with places := s.places.filter (·.1 != s.flow) }
  | none => some s

/-- Remembers the place at the cursor, if a key may start there. -/
def savePlace? (s : Scanner) : Option Scanner :=
  if s.keyAllowed then
    s.dropPlace?.map fun s =>
      let required := s.flow == 0 && s.indent == (s.cursor.column : Int)
      let place : KeyPlace :=
        ⟨s.count, required, s.cursor.index, s.cursor.line, s.cursor.column⟩
      { s with places := (s.flow, place) :: s.places }
  else some s

/-! ### Blocks -/

/-- Ends the blocks that stand right of a column. -/
def unwind (fuel : Nat) (column : Int) (s : Scanner) : Scanner :=
  match fuel with
  | 0 => s
  | fuel + 1 =>
    if s.flow = 0 ∧ column < s.indent then
      match s.outer with
      | indent :: outer =>
        unwind fuel column (push .blockEnd { s with indent := indent, outer := outer })
      | [] => s
    else s

/-- Ends the blocks that stand right of a column, all of them when it is negative. -/
def unwindTo (column : Int) (s : Scanner) : Scanner :=
  s.unwind (s.outer.length + 1) column

/-- Starts a block at a column right of the present block; `number` is the number of its first
token. -/
def openBlock (t : Token) (column number : Nat) (s : Scanner) : Scanner :=
  if s.indent < (column : Int) then
    insertAt number t { s with indent := column, outer := s.indent :: s.outer }
  else s

/-! ### Tokens of one kind each -/

/-- Moves past spaces, comments and line ends. -/
def toNextToken (fuel : Nat) (s : Scanner) : Scanner :=
  match fuel with
  | 0 => s
  | fuel + 1 =>
    let c := s.cursor.skipWhile (· == ' ')
    let c := if c.head = some '#' then c.skipWhile (!isBreak ·) else c
    match c.lineBreak? with
    | some (_, c) =>
      toNextToken fuel { s with cursor := c, keyAllowed := s.keyAllowed || s.flow == 0 }
    | none => { s with cursor := c }

/-- A mark of a document, or a directive, ends all blocks. -/
def boundary? (t : Token) (length : Nat) (s : Scanner) : Option Scanner :=
  (s.unwindTo (-1)).dropPlace?.map fun s => ((s.allowKey false).skip length).push t

/-- A bracket that opens. -/
def openFlow? (t : Token) (s : Scanner) : Option Scanner :=
  s.savePlace?.map fun s => ({ s with flow := s.flow + 1, keyAllowed := true }.skip 1).push t

/-- A bracket that closes. -/
def closeFlow? (t : Token) (s : Scanner) : Option Scanner :=
  if s.flow = 0 then none
  else
    s.dropPlace?.map fun s => ({ s with flow := s.flow - 1, keyAllowed := false }.skip 1).push t

/-- A comma between brackets. -/
def comma? (s : Scanner) : Option Scanner :=
  (s.allowKey true).dropPlace?.map fun s => (s.skip 1).push .comma

/-- The indicator of an item of a block sequence. -/
def item? (s : Scanner) : Option Scanner :=
  if s.flow = 0 ∧ s.keyAllowed = false then none
  else
    let s := if s.flow = 0 then s.openBlock .sequenceStart s.cursor.column s.count else s
    (s.allowKey true).dropPlace?.map fun s => (s.skip 1).push .item

/-- The indicator of a key that is given apart. -/
def key? (s : Scanner) : Option Scanner :=
  if s.flow = 0 ∧ s.keyAllowed = false then none
  else
    let s := if s.flow = 0 then s.openBlock .mappingStart s.cursor.column s.count else s
    (s.allowKey (s.flow == 0)).dropPlace?.map fun s => (s.skip 1).push .key

/-- The colon between a key and its value. -/
def value? (s : Scanner) : Option Scanner :=
  match s.places.lookup s.flow with
  | some p =>
    let s := { s with places := s.places.filter (·.1 != s.flow) }
    let s := s.insertAt p.number .key
    let s := if s.flow = 0 then s.openBlock .mappingStart p.column p.number else s
    some (((s.allowKey false).skip 1).push .value)
  | none =>
    if s.flow = 0 ∧ s.keyAllowed = false then none
    else
      let s := if s.flow = 0 then s.openBlock .mappingStart s.cursor.column s.count else s
      (s.allowKey (s.flow == 0)).dropPlace?.map fun s => (s.skip 1).push .value

/-- A character of the name of an anchor. -/
def isAnchorChar (c : Char) : Bool :=
  c.isAlphanum || c == '-' || c == '_'

/-- The name of an anchor, after its indicator. -/
def anchor? (token : String → Token) (s : Scanner) : Option Scanner :=
  s.savePlace?.bind fun s =>
    let s := (s.allowKey false).skip 1
    let name := s.cursor.rest.takeWhile isAnchorChar
    let s := s.skip name.length
    let ends := s.cursor.head.all fun c => isGap c || "?:,]\x7d%@\x60".toList.contains c
    if name.isEmpty || !ends then none else some (s.push (token (String.ofList name)))

/-- The tag that characters write. -/
def tagOf (cs : List Char) : Tag :=
  match cs with
  | ['!'] => .nonSpecific
  | '!' :: '!' :: name => .standard (String.ofList name)
  | '!' :: '<' :: uri =>
    let standard := "tag:yaml.org,2002:".toList
    if standard.isPrefixOf uri && uri.getLast? == some '>' then
      .standard (String.ofList (uri.drop standard.length).dropLast)
    else .foreign
  | _ => .foreign

/-- A tag. -/
def tag? (s : Scanner) : Option Scanner :=
  s.savePlace?.map fun s =>
    let cs := s.cursor.rest.takeWhile (!isGap ·)
    ((s.allowKey false).skip cs.length).push (.tag (tagOf cs))

/-- A scalar that is a block of lines. -/
def block? (folded : Bool) (s : Scanner) : Option Scanner :=
  (s.allowKey true).dropPlace?.bind fun s =>
    (readBlock? folded s.indent s.cursor).map fun (text, c) =>
      { s with cursor := c }.push (.scalar (String.ofList text) false)

/-- A scalar in quotes. -/
def quoted? (double : Bool) (s : Scanner) : Option Scanner :=
  s.savePlace?.bind fun s =>
    (readQuoted? double s.cursor).map fun (text, c) =>
      ({ s with cursor := c }.allowKey false).push (.scalar (String.ofList text) false)

/-- A plain scalar. -/
def plain? (s : Scanner) : Option Scanner :=
  s.savePlace?.map fun s =>
    let read := readPlain (s.flow != 0) s.indent s.cursor
    ({ s with cursor := read.cursor }.allowKey read.brokeLine).push
      (.scalar (String.ofList read.text) true)

/-- A plain scalar may start with a character, given the one after it. -/
def startsPlain (flow : Bool) (c : Char) (next : Option Char) : Bool :=
  !(isGap c || "-?:,[]\x7b\x7d#&*!|>'\"%@\x60".toList.contains c) ||
    (!isGapOrEnd next && (c == '-' || (!flow && (c == '?' || c == ':'))))

/-! ### All tokens -/

/-- Scans the token that starts with a character at the cursor. -/
def token? (c : Char) (s : Scanner) : Option Scanner :=
  let next := s.cursor.peek 1
  let atMark := s.cursor.column == 0 && s.cursor.atDocumentMark
  let apart := isGapOrEnd next
  let inFlow := s.flow != 0
  if c = '%' ∧ s.cursor.column = 0 then
    s.boundary? .directive (s.cursor.rest.takeWhile (!isBreak ·)).length
  else if c = '-' ∧ atMark then s.boundary? .documentStart 3
  else if c = '.' ∧ atMark then s.boundary? .documentEnd 3
  else if c = '[' then s.openFlow? .flowSequenceStart
  else if c = '\x7b' then s.openFlow? .flowMappingStart
  else if c = ']' then s.closeFlow? .flowSequenceEnd
  else if c = '\x7d' then s.closeFlow? .flowMappingEnd
  else if c = ',' then s.comma?
  else if c = '-' ∧ apart then s.item?
  else if c = '?' ∧ (inFlow || apart) then s.key?
  else if c = ':' ∧ (inFlow || apart) then s.value?
  else if c = '*' then s.anchor? .repeated
  else if c = '&' then s.anchor? .named
  else if c = '!' then s.tag?
  else if c = '|' ∧ !inFlow then s.block? false
  else if c = '>' ∧ !inFlow then s.block? true
  else if c = '\'' then s.quoted? false
  else if c = '"' then s.quoted? true
  else if startsPlain inFlow c next then s.plain?
  else none

/-- Scans all tokens. Each round takes at least one character. -/
def run? (fuel : Nat) (s : Scanner) : Option (List Token) :=
  match fuel with
  | 0 => none
  | fuel + 1 =>
    let s := s.toNextToken (s.cursor.rest.length + 1)
    match s.dropStale? with
    | none => none
    | some s =>
      let s := s.unwindTo s.cursor.column
      match s.cursor.head with
      | none => (s.unwindTo (-1)).dropPlace?.map fun s => s.tokens.reverse
      | some c => (s.token? c).bind (run? fuel)

end Scanner

/-- A character that may stand in a text. -/
def isAllowed (c : Char) : Bool :=
  let n := c.toNat
  n == 0x9 || n == 0xA || n == 0xD || (0x20 ≤ n && n ≤ 0x7E) || n == 0x85 ||
    (0xA0 ≤ n && n ≤ 0xFFFD) || 0x10000 ≤ n

/-- The tokens of a text. A byte order mark at its start is passed over. -/
def Token.scan? (cs : List Char) : Option (List Token) :=
  if cs.all isAllowed then
    let s := Scanner.start cs
    let s := if cs.head?.any fun c => c.toNat == 0xFEFF then s.skip 1 else s
    s.run? (cs.length + 1)
  else none

end AnchorIndex.Yaml
