import AnchorIndex.Text.Blank

/-!
# Numerals

An integer is read from decimal digits of any script, of any length, with an optional sign and
single low lines between digits (`readInt?`). It is written in the ASCII digits by the standard
library; `hexadecimal` writes a natural number in a fixed number of hexadecimal digits.
-/
namespace AnchorIndex.Text

/-- The digits zero of the decimal scripts above ASCII; the other nine digits follow each. -/
def digitZeros : List Nat :=
  [0x30, 0x660, 0x6F0, 0x7C0, 0x966, 0x9E6, 0xA66, 0xAE6, 0xB66, 0xBE6, 0xC66, 0xCE6, 0xD66,
   0xDE6, 0xE50, 0xED0, 0xF20, 0x1040, 0x1090, 0x17E0, 0x1810, 0x1946, 0x19D0, 0x1A80, 0x1A90,
   0x1B50, 0x1BB0, 0x1C40, 0x1C50, 0xA620, 0xA8D0, 0xA900, 0xA9D0, 0xA9F0, 0xAA50, 0xABF0,
   0xFF10, 0x104A0, 0x10D30, 0x11066, 0x110F0, 0x11136, 0x111D0, 0x112F0, 0x11450, 0x114D0,
   0x11650, 0x116C0, 0x11730, 0x118E0, 0x11950, 0x11C50, 0x11D50, 0x11DA0, 0x16A60, 0x16AC0,
   0x16B50, 0x1D7CE, 0x1D7D8, 0x1D7E2, 0x1D7EC, 0x1D7F6, 0x1E140, 0x1E2F0, 0x1E950, 0x1FBF0]

/-- The value of a decimal digit. -/
def digitValue? (c : Char) : Option Nat :=
  if c.isDigit then some (c.toNat - '0'.toNat)
  else if c.toNat < 128 then none
  else (digitZeros.find? fun z => z ≤ c.toNat && c.toNat < z + 10).map (c.toNat - ·)

/-- Reads digits after a digit: `value` is the number read so far. A low line has to stand
between two digits. -/
def readDigits? (value : Nat) : List Char → Option Nat
  | [] => some value
  | '_' :: c :: r => (digitValue? c).bind fun d => readDigits? (10 * value + d) r
  | c :: r => (digitValue? c).bind fun d => readDigits? (10 * value + d) r

/-- A natural number is a digit, followed by digits and single low lines between them. -/
def readNat? : List Char → Option Nat
  | [] => none
  | c :: r => (digitValue? c).bind fun d => readDigits? d r

/-- The blanks that may surround a number. The separating control characters may not. -/
def isPadding (c : Char) : Bool :=
  isBlank c && !(0x1C ≤ c.toNat && c.toNat ≤ 0x1F)

/-- Reads an integer: blanks around it, one sign at most, then a natural number. -/
def readInt? (cs : List Char) : Option Int :=
  match ((cs.dropWhile isPadding).reverse.dropWhile isPadding).reverse with
  | '-' :: r => (readNat? r).map fun n => -(n : Int)
  | '+' :: r => (readNat? r).map fun n => (n : Int)
  | r => (readNat? r).map fun n => (n : Int)

/-- A natural number in lower case hexadecimal digits, filled with zeros to `width`. -/
def hexadecimal (width n : Nat) : String :=
  let ds := Nat.toDigits 16 n
  String.ofList (List.replicate (width - ds.length) '0' ++ ds)

/-- The value of a hexadecimal digit. -/
def hexValue? (c : Char) : Option Nat :=
  if c.isDigit then some (c.toNat - '0'.toNat)
  else if 'a' ≤ c && c ≤ 'f' then some (c.toNat - 'a'.toNat + 10)
  else if 'A' ≤ c && c ≤ 'F' then some (c.toNat - 'A'.toNat + 10)
  else none

/-- Reads a nonempty sequence of hexadecimal digits. -/
def readHex? (cs : List Char) : Option Nat :=
  if cs.isEmpty then none
  else cs.foldl (fun v c => v.bind fun n => (hexValue? c).map (16 * n + ·)) (some 0)

end AnchorIndex.Text
