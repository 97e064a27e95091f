import AnchorIndex.Text.Blank
import AnchorIndex.Text.Numeral

/-!
# Scalars as they are written

A cursor is a position in a text: what is left of the text, how many characters come before it,
and the line and column. Line feeds, carriage returns, next-line characters and the two
separators of Unicode end a line.

A scalar is written plain, in quotes, or as a block of lines. Each function here reads one form
from a cursor and answers the text of the scalar with the cursor after it, or nothing when the
form is broken. Line ends inside a scalar are folded: one of them is a space, of several the
first is dropped.
-/

namespace AnchorIndex.Yaml

/-! ### Reading positions -/

/-- A position in a text. -/
structure Cursor where
  rest : List Char
  index : Nat
  line : Nat
  column : Nat
  deriving DecidableEq, Repr

/-- A character that ends a line. -/
def isBreak (c : Char) : Bool :=
  c == '\n' || c == '\r' || c.toNat == 0x85 || c.toNat == 0x2028 || c.toNat == 0x2029

/-- A space, a tab or the end of a line. -/
def isGap (c : Char) : Bool :=
  c == ' ' || c == '\t' || isBreak c

/-- A gap, or the end of the text. -/
def isGapOrEnd : Option Char → Bool
  | none => true
  | some c => isGap c

/-- The end of a line, or of the text. -/
def isBreakOrEnd : Option Char → Bool
  | none => true
  | some c => isBreak c

namespace Cursor

/-- The start of a text. -/
def start (cs : List Char) : Cursor := ⟨cs, 0, 0, 0⟩

/-- The character at an offset. -/
def peek (c : Cursor) (offset : Nat) : Option Char :=
  c.rest[offset]?

/-- The character at the cursor. -/
def head (c : Cursor) : Option Char :=
  c.rest.head?

/-- The cursor after one character. A carriage return before a line feed ends no line of its
own, and the byte order mark takes no column. -/
def advance (c : Cursor) : Cursor :=
  match c.rest with
  | [] => c
  | ch :: r =>
    if isBreak ch && !(ch == '\r' && r.head? == some '\n') then ⟨r, c.index + 1, c.line + 1, 0⟩
    else if ch.toNat = 0xFEFF then ⟨r, c.index + 1, c.line, c.column⟩
    else ⟨r, c.index + 1, c.line, c.column + 1⟩

/-- The cursor after some characters. -/
def skip : Nat → Cursor → Cursor
  | 0, c => c
  | n + 1, c => skip n c.advance

/-- The cursor after all characters that satisfy a condition. -/
def skipWhile (p : Char → Bool) (c : Cursor) : Cursor :=
  skip (c.rest.takeWhile p).length c

/-- The end of a line at the cursor, as it counts in a text, and the cursor after it. -/
def lineBreak? (c : Cursor) : Option (Char × Cursor) :=
  match c.rest with
  | '\r' :: '\n' :: _ => some ('\n', c.skip 2)
  | ch :: _ =>
    if isBreak ch then
      some (if ch.toNat == 0x2028 || ch.toNat == 0x2029 then ch else '\n', c.advance)
    else none
  | [] => none

/-- The cursor stands before a mark that starts or ends a document. -/
def atDocumentMark (c : Cursor) : Bool :=
  match c.rest with
  | '-' :: '-' :: '-' :: r => isGapOrEnd r.head?
  | '.' :: '.' :: '.' :: r => isGapOrEnd r.head?
  | _ => false

end Cursor

/-! ### Folding -/

/-- Folded line ends: `first` ends the line, and `more` are the ends of empty lines after it. -/
def foldBreak (first : Char) (more : List Char) : List Char :=
  if first = '\n' then (if more.isEmpty then [' '] else more) else first :: more

/-! ### Plain scalars -/

/-- The number of characters up to the next gap or indicator that ends a plain scalar. -/
def plainLength (flow : Bool) : List Char → Nat
  | [] => 0
  | c :: r =>
    let endsKey :=
      c == ':' && (isGapOrEnd r.head? || (flow && r.head?.any fun d => ",[]\x7b\x7d".toList.contains d))
    if isGap c || endsKey || (flow && ",?[]\x7b\x7d".toList.contains c) then 0
    else plainLength flow r + 1

/-- Reads empty lines inside a plain scalar; the ends of lines are given in reverse. Nothing is
answered before a document mark. -/
def plainBreaks (fuel : Nat) (acc : List Char) (c : Cursor) : Option (List Char) × Cursor :=
  match fuel with
  | 0 => (some acc.reverse, c)
  | fuel + 1 =>
    match c.head with
    | some ' ' => plainBreaks fuel acc c.advance
    | _ =>
      match c.lineBreak? with
      | some (b, c) =>
        if c.atDocumentMark then (none, c) else plainBreaks fuel (b :: acc) c
      | none => (some acc.reverse, c)

/-- The gap after a part of a plain scalar: how it counts in the text, the cursor after it, and
whether a line has ended. -/
def plainGap (c : Cursor) : List Char × Cursor × Bool :=
  let blanks := c.rest.takeWhile (· == ' ')
  let c := c.skip blanks.length
  match c.lineBreak? with
  | none => (blanks, c, false)
  | some (b, c) =>
    if c.atDocumentMark then ([], c, true)
    else
      match plainBreaks (c.rest.length + 1) [] c with
      | (none, c) => ([], c, true)
      | (some more, c) => (foldBreak b more, c, true)

/-- A plain scalar that is read: its text, the cursor after it, and whether the gap after its last
part ended a line. -/
structure PlainScalar where
  text : List Char
  cursor : Cursor
  brokeLine : Bool

/-- Reads the parts of a plain scalar. Parts on further lines have to stand right of `indent`. -/
def plainParts (fuel : Nat) (flow : Bool) (indent : Int) (acc gap : List Char) (broke : Bool)
    (c : Cursor) : PlainScalar :=
  match fuel with
  | 0 => ⟨acc, c, broke⟩
  | fuel + 1 =>
    let n := plainLength flow c.rest
    if c.head = some '#' ∨ n = 0 then ⟨acc, c, broke⟩
    else
      let acc := acc ++ gap ++ c.rest.take n
      let (gap, c, broke) := plainGap (c.skip n)
      if gap.isEmpty || c.head == some '#' || (!flow && (c.column : Int) ≤ indent) then
        ⟨acc, c, broke⟩
      else plainParts fuel flow indent acc gap broke c

/-- Reads a plain scalar. -/
def readPlain (flow : Bool) (indent : Int) (c : Cursor) : PlainScalar :=
  plainParts (c.rest.length + 1) flow indent [] [] false c

/-! ### Quoted scalars -/

/-- The character of an escape of one letter. -/
def escape? (c : Char) : Option Char :=
  match c with
  | '0' => some (Char.ofNat 0)
  | 'a' => some (Char.ofNat 7)
  | 'b' => some (Char.ofNat 8)
  | 't' => some '\t'
  | '\t' => some '\t'
  | 'n' => some '\n'
  | 'v' => some (Char.ofNat 0xB)
  | 'f' => some (Char.ofNat 0xC)
  | 'r' => some '\r'
  | 'e' => some (Char.ofNat 0x1B)
  | ' ' => some ' '
  | '"' => some '"'
  | '\\' => some '\\'
  | '/' => some '/'
  | 'N' => some (Char.ofNat 0x85)
  | '_' => some (Char.ofNat 0xA0)
  | 'L' => some (Char.ofNat 0x2028)
  | 'P' => some (Char.ofNat 0x2029)
  | _ => none

/-- The number of digits of an escape by code point. -/
def escapeDigits? (c : Char) : Option Nat :=
  match c with
  | 'x' => some 2
  | 'u' => some 4
  | 'U' => some 8
  | _ => none

/-- Reads empty lines inside a quoted scalar; the ends of lines are given in reverse. A document
mark breaks the scalar. -/
def quotedBreaks? (fuel : Nat) (acc : List Char) (c : Cursor) : Option (List Char × Cursor) :=
  match fuel with
  | 0 => none
  | fuel + 1 =>
    if c.atDocumentMark then none
    else
      let c := c.skipWhile fun ch => ch == ' ' || ch == '\t'
      match c.lineBreak? with
      | some (b, c) => quotedBreaks? fuel (b :: acc) c
      | none => some (acc.reverse, c)

/-- The gap inside a quoted scalar: how it counts in the text, and the cursor after it. -/
def quotedGap? (c : Cursor) : Option (List Char × Cursor) :=
  let blanks := c.rest.takeWhile fun ch => ch == ' ' || ch == '\t'
  let c := c.skip blanks.length
  match c.lineBreak? with
  | some (b, c) =>
    (quotedBreaks? (c.rest.length + 1) [] c).map fun (more, c) => (foldBreak b more, c)
  | none => if c.rest.isEmpty then none else some (blanks, c)

/-- What an escape stands for, given the cursor after the reverse solidus, and the cursor after
the escape. An escaped line end vanishes. -/
def readEscape? (c : Cursor) : Option (List Char × Cursor) :=
  match c.head with
  | none => none
  | some e =>
    match escape? e with
    | some ch => some ([ch], c.advance)
    | none =>
      match escapeDigits? e with
      | some n =>
        let digits := (c.advance.rest).take n
        if digits.length < n then none
        else (Text.readHex? digits).map fun code => ([Char.ofNat code], c.advance.skip n)
      | none =>
        match c.lineBreak? with
        | some (_, c) => quotedBreaks? (c.rest.length + 1) [] c
        | none => none

/-- Reads a quoted scalar up to and including its closing quote; `acc` is its text so far. -/
def quotedParts? (fuel : Nat) (double : Bool) (acc : List Char) (c : Cursor) :
    Option (List Char × Cursor) :=
  match fuel with
  | 0 => none
  | fuel + 1 =>
    match c.rest with
    | [] => none
    | ch :: r =>
      if isGap ch then
        match quotedGap? c with
        | some (gap, c) => quotedParts? fuel double (acc ++ gap) c
        | none => none
      else if double then
        if ch = '"' then some (acc, c.advance)
        else if ch = '\\' then
          match readEscape? c.advance with
          | some (cs, c) => quotedParts? fuel double (acc ++ cs) c
          | none => none
        else quotedParts? fuel double (acc ++ [ch]) c.advance
      else if ch = '\'' then
        if r.head? = some '\'' then quotedParts? fuel double (acc ++ ['\'']) (c.skip 2)
        else some (acc, c.advance)
      else quotedParts? fuel double (acc ++ [ch]) c.advance

/-- Reads a quoted scalar. -/
def readQuoted? (double : Bool) (c : Cursor) : Option (List Char × Cursor) :=
  quotedParts? (2 * c.rest.length + 2) double [] c.advance

/-! ### Block scalars -/

/-- What to do with the line ends after a block: keep the first, drop all, or keep all. -/
inductive Chomping where
  | clip
  | drop
  | keep
  deriving DecidableEq, Repr

/-- Reads the header of a block: what becomes of its last line ends, and its indentation if that
is given. -/
def blockHeader? (c : Cursor) : Option (Chomping × Option Nat × Cursor) :=
  let chomping (ch : Char) : Chomping := if ch = '+' then .keep else .drop
  let isSign (ch : Char) : Bool := ch == '+' || ch == '-'
  let digit (ch : Char) : Nat := ch.toNat - '0'.toNat
  let read : Option (Chomping × Option Nat × Cursor) :=
    match c.rest with
    | a :: b :: _ =>
      if isSign a then
        if b.isDigit then (if b = '0' then none else some (chomping a, some (digit b), c.skip 2))
        else some (chomping a, none, c.advance)
      else if a.isDigit then
        if a = '0' then none
        else if isSign b then some (chomping b, some (digit a), c.skip 2)
        else some (.clip, some (digit a), c.advance)
      else some (.clip, none, c)
    | [a] =>
      if isSign a then some (chomping a, none, c.advance)
      else if a.isDigit then (if a = '0' then none else some (.clip, some (digit a), c.advance))
      else some (.clip, none, c)
    | [] => some (.clip, none, c)
  read.filter fun (_, _, c) => c.head == some ' ' || isBreakOrEnd c.head

/-- The cursor after the rest of a header line, which may hold a comment. -/
def afterHeaderLine? (c : Cursor) : Option Cursor :=
  let c := c.skipWhile (· == ' ')
  let c := if c.head = some '#' then c.skipWhile (!isBreak ·) else c
  if isBreakOrEnd c.head then some ((c.lineBreak?.map (·.2)).getD c) else none

/-- Empty lines before the first line of a block: their ends in reverse, and the greatest column
that is reached. -/
def leadingBreaks (fuel : Nat) (acc : List Char) (deepest : Nat) (c : Cursor) :
    List Char × Nat × Cursor :=
  match fuel with
  | 0 => (acc.reverse, deepest, c)
  | fuel + 1 =>
    match c.lineBreak? with
    | some (b, c) => leadingBreaks fuel (b :: acc) deepest c
    | none =>
      if c.head = some ' ' then leadingBreaks fuel acc (max deepest c.advance.column) c.advance
      else (acc.reverse, deepest, c)

/-- The cursor after spaces up to a column. -/
def skipIndent (fuel : Nat) (indent : Nat) (c : Cursor) : Cursor :=
  match fuel with
  | 0 => c
  | fuel + 1 =>
    if c.column < indent ∧ c.head = some ' ' then skipIndent fuel indent c.advance else c

/-- Empty lines inside a block: their ends, and the cursor at the next line of the block. -/
def innerBreaks (fuel : Nat) (indent : Nat) (acc : List Char) (c : Cursor) : List Char × Cursor :=
  let c := skipIndent (c.rest.length + 1) indent c
  match fuel with
  | 0 => (acc.reverse, c)
  | fuel + 1 =>
    match c.lineBreak? with
    | some (b, c) => innerBreaks fuel indent (b :: acc) c
    | none => (acc.reverse, c)

/-- Reads the lines of a block; `breaks` are the ends of the empty lines before the next one. The
end of the last line and of the empty lines after it are answered apart. -/
def blockLines (fuel : Nat) (folded : Bool) (indent : Nat) (acc last breaks : List Char)
    (c : Cursor) : List Char × List Char × List Char × Cursor :=
  match fuel with
  | 0 => (acc, last, breaks, c)
  | fuel + 1 =>
    if c.column ≠ indent ∨ c.rest.isEmpty then (acc, last, breaks, c)
    else
      let acc := acc ++ breaks
      let bare := !(c.head == some ' ' || c.head == some '\t')
      let line := c.rest.takeWhile (!isBreak ·)
      let acc := acc ++ line
      let c := c.skip line.length
      let (last, c) :=
        match c.lineBreak? with
        | some (b, c) => ([b], c)
        | none => ([], c)
      let (breaks, c) := innerBreaks (c.rest.length + 1) indent [] c
      if c.column = indent ∧ !c.rest.isEmpty then
        let joined :=
          if folded && last == ['\n'] && bare && !(c.head == some ' ' || c.head == some '\t') then
            (if breaks.isEmpty then [' '] else [])
          else last
        blockLines fuel folded indent (acc ++ joined) last breaks c
      else (acc, last, breaks, c)

/-- Reads a block of lines that stand right of `indent`. -/
def readBlock? (folded : Bool) (indent : Int) (c : Cursor) : Option (List Char × Cursor) := do
  let (chomping, given, c) ← blockHeader? c.advance
  let c ← afterHeaderLine? c
  let least := (max (indent + 1) 1).toNat
  let (column, breaks, c) :=
    match given with
    | some n =>
      let column := least + n - 1
      let (breaks, c) := innerBreaks (c.rest.length + 1) column [] c
      (column, breaks, c)
    | none =>
      let (breaks, deepest, c) := leadingBreaks (c.rest.length + 1) [] 0 c
      (max least deepest, breaks, c)
  let (text, last, breaks, c) := blockLines (c.rest.length + 1) folded column [] [] breaks c
  match chomping with
  | .clip => return (text ++ last, c)
  | .drop => return (text, c)
  | .keep => return (text ++ last ++ breaks, c)

end AnchorIndex.Yaml
