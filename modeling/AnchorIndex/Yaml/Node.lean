import AnchorIndex.Yaml.Token

/-!
# Nodes

The tokens of a text make up one tree of scalars, sequences and mappings (`Node`). A node may be
given a name, and may be repeated by its name after it has ended. `Node.ofTokens?` answers the
tree, or nothing when the tokens make up none. Every node and every entry takes at least one
token, so the number of tokens bounds the depth of reading.
-/

namespace AnchorIndex.Yaml

/-- A tree as it is written. -/
inductive Node where
  | scalar (tag : Option Tag) (text : String) (plain : Bool)
  | sequence (tag : Option Tag) (items : List Node)
  | mapping (tag : Option Tag) (entries : List (Node × Node))
  deriving Inhabited

/-- A scalar that is not written at all. -/
def Node.absent : Node := .scalar none "" true

namespace Node

/-- What is left of the tokens, and the nodes that have a name. -/
structure Position where
  tokens : List Token
  names : List (String × Node)

/-- Reading a part of the tokens. -/
abbrev Reader (α : Type) : Type := StateT Position Option α

/-- The next token. -/
def peek : Reader (Option Token) :=
  return (← get).tokens.head?

/-- Passes over the next token. -/
def advance : Reader Unit :=
  modify fun p => { p with tokens := p.tokens.tail }

/-- Passes over the next token if it is `t`, and tells whether it is. -/
def accept (t : Token) : Reader Bool := do
  if (← peek) = some t then
    advance
    return true
  else return false

/-- Passes over the next token, which has to be `t`. -/
def expect (t : Token) : Reader Unit := do
  if ← accept t then return () else failure

/-- The next token is one of some, or there is none. -/
def before (ts : List Token) : Reader Bool := do
  return (← peek).all ts.contains

/-- The tag before a node. -/
def readTag : Reader (Option Tag) := do
  match ← peek with
  | some (.tag t) =>
    advance
    return some t
  | _ => return none

/-- The name before a node. -/
def readName : Reader (Option String) := do
  match ← peek with
  | some (.named n) =>
    advance
    return some n
  | _ => return none

/-- The name and the tag before a node, in either order. -/
def properties : Reader (Option String × Option Tag) := do
  match ← readName with
  | some n => return (some n, ← readTag)
  | none =>
    let tag ← readTag
    return (← readName, tag)

/-- Where a node stands: between brackets, as a part of a block, or where a sequence may start
without being indented. -/
inductive Place where
  | flow
  | block
  | entry
  deriving DecidableEq, Repr

/-- Gives a node its name. No name is given twice. -/
def keepName (name : Option String) (n : Node) : Reader Unit := do
  match name with
  | none => return ()
  | some name =>
    if ((← get).names.lookup name).isSome then failure
    else modify fun p => { p with names := (name, n) :: p.names }

mutual

/-- Reads a node. -/
def read (fuel : Nat) (place : Place) : Reader Node :=
  match fuel with
  | 0 => failure
  | fuel + 1 => do
    match ← peek with
    | some (.repeated name) =>
      advance
      match (← get).names.lookup name with
      | some n => return n
      | none => failure
    | _ =>
      let (name, tag) ← properties
      let n ← readContent fuel place tag (name.isSome || tag.isSome)
      keepName name n
      return n

/-- Reads a node after its properties. A node with properties may be absent. -/
def readContent (fuel : Nat) (place : Place) (tag : Option Tag) (mayBeAbsent : Bool) :
    Reader Node :=
  match fuel with
  | 0 => failure
  | fuel + 1 => do
    let otherwise : Reader Node :=
      if mayBeAbsent then pure (.scalar tag "" true) else failure
    match ← peek with
    | some (.scalar text plain) =>
      advance
      return .scalar tag text plain
    | some .flowSequenceStart =>
      advance
      return .sequence tag (← flowItems fuel true)
    | some .flowMappingStart =>
      advance
      return .mapping tag (← flowEntries fuel true)
    | some .sequenceStart =>
      if place = .flow then otherwise
      else
        advance
        return .sequence tag (← blockItems fuel)
    | some .mappingStart =>
      if place = .flow then otherwise
      else
        advance
        return .mapping tag (← blockEntries fuel)
    | some .item =>
      if place = .entry then return .sequence tag (← flatItems fuel) else otherwise
    | _ => otherwise

/-- Reads a node, which is absent before some tokens. -/
def readUnless (fuel : Nat) (place : Place) (ends : List Token) : Reader Node :=
  match fuel with
  | 0 => failure
  | fuel + 1 => do
    if ← before ends then return .absent else read fuel place

/-- Reads the items of a block sequence. -/
def blockItems (fuel : Nat) : Reader (List Node) :=
  match fuel with
  | 0 => failure
  | fuel + 1 => do
    if ← accept .item then
      let n ← readUnless fuel .block [.item, .blockEnd]
      return n :: (← blockItems fuel)
    else
      expect .blockEnd
      return []

/-- Reads the items of a block sequence that is not indented. -/
def flatItems (fuel : Nat) : Reader (List Node) :=
  match fuel with
  | 0 => failure
  | fuel + 1 => do
    if ← accept .item then
      let n ← readUnless fuel .block [.item, .key, .value, .blockEnd]
      return n :: (← flatItems fuel)
    else return []

/-- Reads the entries of a block mapping. -/
def blockEntries (fuel : Nat) : Reader (List (Node × Node)) :=
  match fuel with
  | 0 => failure
  | fuel + 1 => do
    if ← accept .key then
      let key ← readUnless fuel .entry [.key, .value, .blockEnd]
      let value ←
        if ← accept .value then readUnless fuel .entry [.key, .value, .blockEnd]
        else pure .absent
      return (key, value) :: (← blockEntries fuel)
    else
      expect .blockEnd
      return []

/-- Reads the items of a flow sequence; a comma stands before each but the first. A key makes an
item a mapping of one entry. -/
def flowItems (fuel : Nat) (first : Bool) : Reader (List Node) :=
  match fuel with
  | 0 => failure
  | fuel + 1 => do
    if ← accept .flowSequenceEnd then return []
    else
      if !first then expect .comma
      if ← accept .key then
        let key ← readUnless fuel .flow [.value, .comma, .flowSequenceEnd]
        let value ←
          if ← accept .value then readUnless fuel .flow [.comma, .flowSequenceEnd]
          else pure .absent
        return .mapping none [(key, value)] :: (← flowItems fuel false)
      else if ← accept .flowSequenceEnd then return []
      else
        let n ← read fuel .flow
        return n :: (← flowItems fuel false)

/-- Reads the entries of a flow mapping; a comma stands before each but the first. An entry
without a value has none. -/
def flowEntries (fuel : Nat) (first : Bool) : Reader (List (Node × Node)) :=
  match fuel with
  | 0 => failure
  | fuel + 1 => do
    if ← accept .flowMappingEnd then return []
    else
      if !first then expect .comma
      if ← accept .key then
        let key ← readUnless fuel .flow [.value, .comma, .flowMappingEnd]
        let value ←
          if ← accept .value then readUnless fuel .flow [.comma, .flowMappingEnd]
          else pure .absent
        return (key, value) :: (← flowEntries fuel false)
      else if ← accept .flowMappingEnd then return []
      else
        let key ← read fuel .flow
        return (key, .absent) :: (← flowEntries fuel false)

end

/-- Passes over the directives before a document. -/
def afterDirectives (ts : List Token) : List Token :=
  ts.dropWhile (· == .directive)

/-- Reads a document: nothing at all, a node, or a node after the mark of a document. -/
def document (fuel : Nat) : Reader Node := do
  let ts := (← get).tokens
  if ts.isEmpty then return .absent
  else if ts.head? = some .directive ∨ ts.head? = some .documentStart then
    set { (← get) with tokens := afterDirectives ts }
    expect .documentStart
    readUnless fuel .block [.directive, .documentStart, .documentEnd]
  else read fuel .block

/-- The tree of the tokens of a text with at most one document. -/
def ofTokens? (ts : List Token) : Option Node := do
  let (n, p) ← (document (6 * ts.length + 16)).run ⟨ts, []⟩
  if p.tokens.all (· == .documentEnd) then some n else none

end Node

end AnchorIndex.Yaml
