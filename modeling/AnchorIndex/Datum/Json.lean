import AnchorIndex.Datum.Basic

/-!
# Data as JSON

`Json.render` writes a datum as JSON in ASCII: on one line, or with one item a line under an
indentation. `Json.parse?` reads JSON. Every construct of the notation uses up at least one
character, so the length of the text bounds the depth of reading.
-/

namespace AnchorIndex.Json

/-! ### Writing -/

/-- One unit of sixteen bits as an escape. -/
def unitEscape (n : Nat) : List Char :=
  '\\' :: 'u' :: (Text.hexadecimal 4 n).toList

/-- A character between the quotes of a JSON text. A character beyond sixteen bits takes two
escapes. -/
def escapeChar (c : Char) : List Char :=
  let n := c.toNat
  if c = '"' then ['\\', '"']
  else if c = '\\' then ['\\', '\\']
  else if 0x20 ≤ n && n < 0x7F then [c]
  else if c = '\n' then ['\\', 'n']
  else if c = '\r' then ['\\', 'r']
  else if c = '\t' then ['\\', 't']
  else if n = 0x08 then ['\\', 'b']
  else if n = 0x0C then ['\\', 'f']
  else if n < 0x10000 then unitEscape n
  else unitEscape (0xD800 + (n - 0x10000) / 0x400) ++ unitEscape (0xDC00 + (n - 0x10000) % 0x400)

/-- A text as JSON. -/
def quoteText (s : String) : String :=
  String.ofList ('"' :: s.toList.flatMap escapeChar ++ ['"'])

/-- A floating point number as JSON; numbers that are not finite have names. -/
def realText (x : Float) : String :=
  if x.isNaN then "NaN"
  else if x.isInf then (if x < 0 then "-Infinity" else "Infinity")
  else Text.Decimal.render x

/-- How items are set apart: on one line, or each on its own with an indentation a level. -/
structure Layout where
  indent : Option Nat

/-- Items stand on one line. -/
def Layout.line : Layout := ⟨none⟩

/-- Items stand each on its own line, two columns further in than what holds them. -/
def Layout.block : Layout := ⟨some 2⟩

/-- Items at a level between two brackets. -/
def Layout.surround (layout : Layout) (level : Nat) (left right : String) (items : List String) :
    String :=
  match items, layout.indent with
  | [], _ => left ++ right
  | _, none => left ++ ", ".intercalate items ++ right
  | _, some n =>
    let edge (k : Nat) : String := "\n" ++ String.ofList (List.replicate (n * k) ' ')
    left ++ edge (level + 1) ++ ("," ++ edge (level + 1)).intercalate items ++ edge level ++ right

/-- The key of an entry as JSON. -/
def keyText : Datum → String
  | .text s => quoteText s
  | .bool b => if b then "\"true\"" else "\"false\""
  | .null => "\"null\""
  | d => quoteText d.display

mutual

/-- A datum as JSON at a level of nesting. -/
def renderAt (layout : Layout) (level : Nat) : Datum → String
  | .null => "null"
  | .bool b => if b then "true" else "false"
  | .int n => toString n
  | .real x => realText x
  | .text s => quoteText s
  | .list items => layout.surround level "[" "]" (renderItems layout (level + 1) items)
  | .table entries =>
    layout.surround level "\x7b" "\x7d" (renderEntries layout (level + 1) entries)
  | .mapping entries =>
    layout.surround level "\x7b" "\x7d" (renderPairs layout (level + 1) entries)
  | .moment m => quoteText m.display

/-- The items of a list as JSON. -/
def renderItems (layout : Layout) (level : Nat) : List Datum → List String
  | [] => []
  | d :: r => renderAt layout level d :: renderItems layout level r

/-- The entries of a table as JSON. -/
def renderEntries (layout : Layout) (level : Nat) : List (String × Datum) → List String
  | [] => []
  | (k, d) :: r =>
    (quoteText k ++ ": " ++ renderAt layout level d) :: renderEntries layout level r

/-- The entries of a mapping as JSON; a key that is no text is written as the text of its
value. -/
def renderPairs (layout : Layout) (level : Nat) : List (Datum × Datum) → List String
  | [] => []
  | (k, d) :: r =>
    (keyText k ++ ": " ++ renderAt layout level d) :: renderPairs layout level r

end

/-- A datum as JSON. -/
def render (layout : Layout) (d : Datum) : String :=
  renderAt layout 0 d

/-! ### Reading -/

/-- The blanks of JSON. -/
def isSpace (c : Char) : Bool :=
  c == ' ' || c == '\t' || c == '\n' || c == '\r'

/-- The text after blanks. -/
def skipSpace (cs : List Char) : List Char :=
  cs.dropWhile isSpace

/-- The text with one unit of sixteen bits more at its end: `acc` is the text in reverse, and
`high` a first half that waits for its second one. A half alone gives the replacement
character. -/
def pushUnit (high : Option Nat) (acc : List Char) (n : Nat) : Option Nat × List Char :=
  let replaced := Char.ofNat 0xFFFD
  match high with
  | some h =>
    if 0xDC00 ≤ n ∧ n ≤ 0xDFFF then
      (none, Char.ofNat (0x10000 + (h - 0xD800) * 0x400 + (n - 0xDC00)) :: acc)
    else if 0xD800 ≤ n ∧ n ≤ 0xDBFF then (some n, replaced :: acc)
    else (none, Char.ofNat n :: replaced :: acc)
  | none =>
    if 0xD800 ≤ n ∧ n ≤ 0xDBFF then (some n, acc)
    else if 0xDC00 ≤ n ∧ n ≤ 0xDFFF then (none, replaced :: acc)
    else (none, Char.ofNat n :: acc)

/-- The character of an escape of one letter. -/
def shortEscape? (c : Char) : Option Char :=
  match c with
  | '"' => some '"'
  | '\\' => some '\\'
  | '/' => some '/'
  | 'b' => some (Char.ofNat 8)
  | 'f' => some (Char.ofNat 12)
  | 'n' => some '\n'
  | 'r' => some '\r'
  | 't' => some '\t'
  | _ => none

/-- Reads a text after its opening quote, up to and including the closing one. -/
def readText? (high : Option Nat) (acc : List Char) :
    List Char → Option (List Char × List Char)
  | [] => none
  | '"' :: r =>
    some ((if high.isSome then Char.ofNat 0xFFFD :: acc else acc).reverse, r)
  | '\\' :: 'u' :: a :: b :: c :: d :: r =>
    match Text.readHex? [a, b, c, d] with
    | none => none
    | some n =>
      let (high, acc) := pushUnit high acc n
      readText? high acc r
  | '\\' :: e :: r =>
    match shortEscape? e with
    | none => none
    | some c =>
      let (high, acc) := pushUnit high acc c.toNat
      readText? high acc r
  | c :: r =>
    if c.toNat < 0x20 then none
    else if high.isSome then readText? none (c :: Char.ofNat 0xFFFD :: acc) r
    else readText? none (c :: acc) r

/-- A digit of a number. -/
def isDigit (c : Char) : Bool :=
  '0' ≤ c && c ≤ '9'

/-- The number that digits write. -/
def digitsValue (cs : List Char) : Nat :=
  cs.foldl (fun n c => 10 * n + (c.toNat - '0'.toNat)) 0

/-- An exponent at the start of the text, if there is one with digits. -/
def readExponent (cs : List Char) : Option Int × List Char :=
  match cs with
  | e :: r =>
    if e == 'e' || e == 'E' then
      let (negative, ds) :=
        match r with
        | '-' :: q => (true, q)
        | '+' :: q => (false, q)
        | q => (false, q)
      let digits := ds.takeWhile isDigit
      if digits.isEmpty then (none, cs)
      else
        let n : Int := digitsValue digits
        (some (if negative then -n else n), ds.dropWhile isDigit)
    else (none, cs)
  | [] => (none, cs)

/-- Reads a number: an integer, and a floating point number when there is a fraction or an
exponent. -/
def readNumber? (cs : List Char) : Option (Datum × List Char) :=
  let (negative, body) :=
    match cs with
    | '-' :: r => (true, r)
    | r => (false, r)
  let whole :=
    match body with
    | '0' :: _ => ['0']
    | r => r.takeWhile isDigit
  if whole.isEmpty then none
  else
    let rest := body.drop whole.length
    let fraction :=
      match rest with
      | '.' :: r => r.takeWhile isDigit
      | _ => []
    let rest := if fraction.isEmpty then rest else rest.drop (fraction.length + 1)
    let (exponent, rest) := readExponent rest
    if fraction.isEmpty && exponent.isNone then
      let n : Int := digitsValue whole
      some (.int (if negative then -n else n), rest)
    else
      let power := exponent.getD 0 - fraction.length
      some (.real (Text.Decimal.readReal negative (digitsValue (whole ++ fraction)) power), rest)

mutual

/-- Reads one value; `fuel` bounds the number of constructs. -/
def readValue? (fuel : Nat) (cs : List Char) : Option (Datum × List Char) :=
  match fuel with
  | 0 => none
  | fuel + 1 =>
    match cs with
    | '"' :: r => (readText? none [] r).map fun (t, r) => (.text (String.ofList t), r)
    | '[' :: r =>
      match skipSpace r with
      | ']' :: r => some (.list [], r)
      | r => readItems? fuel [] r
    | '\x7b' :: r =>
      match skipSpace r with
      | '\x7d' :: r => some (.table [], r)
      | r => readEntries? fuel [] r
    | 'n' :: 'u' :: 'l' :: 'l' :: r => some (.null, r)
    | 't' :: 'r' :: 'u' :: 'e' :: r => some (.bool true, r)
    | 'f' :: 'a' :: 'l' :: 's' :: 'e' :: r => some (.bool false, r)
    | 'N' :: 'a' :: 'N' :: r => some (.real (0.0 / 0.0), r)
    | 'I' :: 'n' :: 'f' :: 'i' :: 'n' :: 'i' :: 't' :: 'y' :: r => some (.real (1.0 / 0.0), r)
    | '-' :: 'I' :: 'n' :: 'f' :: 'i' :: 'n' :: 'i' :: 't' :: 'y' :: r =>
      some (.real (-1.0 / 0.0), r)
    | r => readNumber? r

/-- Reads the items of a list that is not empty, after its bracket. -/
def readItems? (fuel : Nat) (acc : List Datum) (cs : List Char) : Option (Datum × List Char) :=
  match fuel with
  | 0 => none
  | fuel + 1 =>
    match readValue? fuel cs with
    | none => none
    | some (d, r) =>
      match skipSpace r with
      | ',' :: r => readItems? fuel (d :: acc) (skipSpace r)
      | ']' :: r => some (.list (d :: acc).reverse, r)
      | _ => none

/-- Reads the entries of a table that is not empty, after its brace. -/
def readEntries? (fuel : Nat) (acc : List (String × Datum)) (cs : List Char) :
    Option (Datum × List Char) :=
  match fuel with
  | 0 => none
  | fuel + 1 =>
    match cs with
    | '"' :: r =>
      match readText? none [] r with
      | none => none
      | some (key, r) =>
        match skipSpace r with
        | ':' :: r =>
          match readValue? fuel (skipSpace r) with
          | none => none
          | some (d, r) =>
            let acc := (String.ofList key, d) :: acc
            match skipSpace r with
            | ',' :: r => readEntries? fuel acc (skipSpace r)
            | '\x7d' :: r => some (.table (mergeRepeated acc.reverse), r)
            | _ => none
        | _ => none
    | _ => none

end

/-- Reads a text that holds one JSON value. -/
def parse? (s : String) : Option Datum :=
  let cs := s.toList
  match readValue? (cs.length + 1) (skipSpace cs) with
  | some (d, r) => if (skipSpace r).isEmpty then some d else none
  | none => none

end AnchorIndex.Json
