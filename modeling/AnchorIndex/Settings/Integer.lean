import AnchorIndex.Datum.Basic
import AnchorIndex.Text.Numeral
import AnchorIndex.Text.Search

/-!
# Integers of settings

A setting that is an integer may be given as a truth value, as a floating point number without
fraction, or as a text (`integerOf`). A text is written in ASCII digits: zeros and low lines at
its start do not count, nor does a fraction of zeros, and low lines between digits are left out.
-/

namespace AnchorIndex

/-- Why a datum is no integer. -/
inductive NotInteger where
  | otherKind
  | unreadable
  | infinite
  | fraction
  | tooLarge
  deriving DecidableEq, Repr

namespace NotInteger

/-- What is said of a datum that is no integer. -/
def message : NotInteger → String
  | otherKind => "Input should be a valid integer"
  | unreadable => "Input should be a valid integer, unable to parse string as an integer"
  | infinite => "Input should be a finite number"
  | fraction => "Input should be a valid integer, got a number with a fractional part"
  | tooLarge => "Unable to parse input string as an integer, exceeded maximum size"

end NotInteger

/-! ### Texts -/

/-- The text without the plus sign at its start; another sign behind it is a flaw. -/
def afterPlus? : List Char → Option (List Char)
  | '+' :: '-' :: _ => none
  | '+' :: r => some r
  | cs => some cs

/-- What is left of the text after a zero: `last` is the character before it. -/
def afterZeros? (last : Char) : List Char → Option (List Char)
  | [] => some [last]
  | c :: r =>
    if c = '0' ∨ c = '_' then afterZeros? c r
    else if c.isDigit then some (c :: r)
    else if c = '.' then some (last :: c :: r)
    else none

/-- The text without zeros and low lines at its start, of which one zero stays if no digit
follows. -/
def withoutZeros? : List Char → Option (List Char)
  | [] => none
  | c :: r =>
    if c = '0' then afterZeros? c r
    else if c = '-' ∨ c.isDigit then some (c :: r)
    else none

/-- The text without a fraction of zeros. -/
def withoutZeroFraction (cs : List Char) : List Char :=
  match Text.cutAt? ['.'] cs with
  | some (whole, fraction) =>
    if !fraction.isEmpty && fraction.all (· == '0') then whole else cs
  | none => cs

/-- The text without low lines, which have to stand alone inside of the text. -/
def withoutInnerLows? (cs : List Char) : Option (List Char) :=
  if cs.head? = some '_' ∨ cs.getLast? = some '_' ∨ Text.occurs ['_', '_'] cs then none
  else some (cs.filter (· != '_'))

/-- A natural number is written in ASCII digits, and does not start with a zero unless it is
one. -/
def canonicalNat? (cs : List Char) : Option Nat :=
  if cs.all Char.isDigit && (cs.length == 1 || cs.head? != some '0') then Text.readNat? cs else none

/-- An integer is written with at most this many characters. -/
def maxIntegerSize : Nat := 4300

/-- The integer that a text writes. -/
def integerOfText (s : String) : Except NotInteger Int :=
  let trimmed := ((s.toList.dropWhile Text.isPadding).reverse.dropWhile Text.isPadding).reverse
  let read (cs : List Char) : Except NotInteger Int :=
    let (negative, digits) :=
      match cs with
      | '-' :: r => (true, r)
      | r => (false, r)
    match canonicalNat? digits with
    | none => .error .unreadable
    | some n =>
      if maxIntegerSize < cs.length then .error .tooLarge
      else .ok (if negative then -(n : Int) else n)
  match ((afterPlus? trimmed).bind withoutZeros?).bind fun cs =>
      withoutInnerLows? (withoutZeroFraction cs) with
  | some cs => read cs
  | none => .error .unreadable

/-! ### All data -/

/-- The integer that a finite floating point number is, if it has no fraction. -/
def integerOfReal? (x : Float) : Option Int :=
  let b := Text.Decimal.Binary.ofFloat x
  let (n, d) := Text.Decimal.quotient b.mantissa b.exponent 0
  if n % d = 0 then some (if x < 0 then -((n / d : Nat) : Int) else (n / d : Nat)) else none

/-- The integers of a floating point number have a smaller size than this. -/
def realBound : Nat := 9223372036854775808

/-- The integer that a floating point number is. -/
def integerOfReal (x : Float) : Except NotInteger Int :=
  if x.isNaN || x.isInf then .error .infinite
  else
    match integerOfReal? x with
    | none => .error .fraction
    | some n => if n.natAbs < realBound then .ok n else .error .tooLarge

/-- The integer that a datum is. -/
def integerOf (d : Datum) : Except NotInteger Int :=
  match d with
  | .int n => .ok n
  | .bool b => .ok (if b then 1 else 0)
  | .real x => integerOfReal x
  | .text s => integerOfText s
  | _ => .error .otherKind

end AnchorIndex
