import AnchorIndex.Datum.Basic
import AnchorIndex.Text.Lines
import AnchorIndex.Text.Numeral
import AnchorIndex.Text.Search

/-!
# Plain scalars as values

A plain scalar is a truth value, a number, null, a date or a time if it is written as one, and a
text otherwise (`plainValue`). Integers are written in base two, eight, ten or sixteen, or as
groups of base sixty; low lines between digits do not count.
-/

namespace AnchorIndex.Yaml

/-- Why a text has no value. -/
inductive Flaw where
  /-- The text is malformed. -/
  | malformed
  /-- A scalar is written as a value that there is not. -/
  | impossible (message : String)
  deriving DecidableEq, Repr

/-- A value, or why there is none. -/
abbrev Valued (α : Type) : Type := Except Flaw α

/-! ### Words -/

/-- Words for truth values. -/
def truthValue? (s : String) : Option Bool :=
  if ["yes", "Yes", "YES", "true", "True", "TRUE", "on", "On", "ON"].contains s then some true
  else if ["no", "No", "NO", "false", "False", "FALSE", "off", "Off", "OFF"].contains s then
    some false
  else none

/-- Words for null, one of which is empty. -/
def isNullWord (s : String) : Bool :=
  ["", "~", "null", "Null", "NULL"].contains s

/-! ### Signs and digits -/

/-- A sign at the start, and the rest. -/
def takeSign (cs : List Char) : Bool × List Char :=
  match cs with
  | '-' :: r => (true, r)
  | '+' :: r => (false, r)
  | r => (false, r)

/-- A number with its sign. -/
def signed (negative : Bool) (n : Nat) : Int :=
  if negative then -(n : Int) else n

/-- The characters without low lines. -/
def withoutLowLines (cs : List Char) : List Char :=
  cs.filter (· != '_')

/-- The number that digits write in a base. Characters that are no digits count as zero. -/
def digitsIn (base : Nat) (cs : List Char) : Nat :=
  cs.foldl (fun n c => base * n + (Text.hexValue? c).getD 0) 0

/-- A decimal digit or a low line. -/
def isDigitOrLow (c : Char) : Bool :=
  c.isDigit || c == '_'

/-- An octal digit or a low line. -/
def isOctalOrLow (c : Char) : Bool :=
  ('0' ≤ c && c ≤ '7') || c == '_'

/-- A binary digit or a low line. -/
def isBinaryOrLow (c : Char) : Bool :=
  c == '0' || c == '1' || c == '_'

/-- A hexadecimal digit or a low line. -/
def isHexOrLow (c : Char) : Bool :=
  (Text.hexValue? c).isSome || c == '_'

/-- A group of base sixty after the first one: one digit, or two below sixty. -/
def isSixtyGroup (cs : List Char) : Bool :=
  match cs with
  | [a] => a.isDigit
  | [a, b] => '0' ≤ a && a ≤ '5' && b.isDigit
  | _ => false

/-! ### Integers -/

/-- The number that digits after the mark of a base write; without digits there is none. -/
def marked (base : Nat) (negative : Bool) (digits : List Char) : Valued Int :=
  let digits := withoutLowLines digits
  if digits.isEmpty then
    .error (.impossible
      ("invalid literal for int() with base " ++ toString base ++ ": " ++ Text.quote ""))
  else .ok (signed negative (digitsIn base digits))

/-- The number that groups of base sixty write. -/
def sixties (groups : List (List Char)) : Nat :=
  groups.foldl (fun n g => 60 * n + digitsIn 10 (withoutLowLines g)) 0

/-- The integer that a scalar is, if it is written as one. -/
def integer? (cs : List Char) : Option (Valued Int) :=
  let (negative, body) := takeSign cs
  match body with
  | [] => none
  | ['0'] => some (.ok 0)
  | '0' :: 'b' :: r =>
    if !r.isEmpty && r.all isBinaryOrLow then some (marked 2 negative r) else none
  | '0' :: 'x' :: r =>
    if !r.isEmpty && r.all isHexOrLow then some (marked 16 negative r) else none
  | '0' :: r =>
    if r.all isOctalOrLow then some (.ok (signed negative (digitsIn 8 (withoutLowLines r))))
    else none
  | c :: r =>
    if !c.isDigit then none
    else
      match Text.splitAt ':' (c :: r) with
      | first :: groups =>
        if first.all isDigitOrLow && groups.all isSixtyGroup then
          some (.ok (signed negative (sixties (first :: groups))))
        else none
      | [] => none

/-! ### Floating point numbers -/

/-- The floating point number that digits around a point write, with a power of ten. -/
def realOfParts (negative : Bool) (whole fraction : List Char) (power : Int) : Float :=
  let fraction := withoutLowLines fraction
  Text.Decimal.readReal negative (digitsIn 10 (withoutLowLines whole ++ fraction))
    (power - fraction.length)

/-- The power of ten after the digits of a number: none, or a letter, a sign and digits. -/
def power? (cs : List Char) : Option Int :=
  match cs with
  | [] => some 0
  | e :: s :: ds =>
    if (e == 'e' || e == 'E') && (s == '+' || s == '-') && !ds.isEmpty && ds.all Char.isDigit then
      some (signed (s == '-') (digitsIn 10 ds))
    else none
  | _ => none

/-- The floating point number that groups of base sixty write, the last one with a fraction. It is
summed up from its end in floating point numbers, so it is rounded at every step. -/
def realOfSixties (negative : Bool) (groups : List (List Char)) (fraction : List Char) : Float :=
  let values :=
    match groups.reverse with
    | [] => []
    | last :: before =>
      realOfParts false last fraction 0 :: before.map fun g => realOfParts false g [] 0
  let (x, _) := values.foldl (fun (x, base) v => (x + v * base, base * 60.0)) (0.0, 1.0)
  if negative then -x else x

/-- The floating point number that a scalar is, if it is written as one. Only a number that starts
with a digit may have a sign. -/
def real? (cs : List Char) : Option Float :=
  let (negative, body) := takeSign cs
  let word := String.ofList body
  if [".inf", ".Inf", ".INF"].contains word then
    some (if negative then -1.0 / 0.0 else 1.0 / 0.0)
  else if [".nan", ".NaN", ".NAN"].contains (String.ofList cs) then some (0.0 / 0.0)
  else
    match Text.cutAt? ['.'] body with
    | none => none
    | some (front, back) =>
      let fraction := back.takeWhile isDigitOrLow
      let rest := back.drop fraction.length
      if front.isEmpty then
        if body.length = cs.length ∧ fraction.head?.any Char.isDigit then
          (power? rest).map (realOfParts negative [] fraction)
        else none
      else if !front.head?.any Char.isDigit then none
      else if front.all isDigitOrLow then (power? rest).map (realOfParts negative front fraction)
      else
        match Text.splitAt ':' front with
        | first :: groups =>
          if first.all isDigitOrLow && groups.all isSixtyGroup && rest.isEmpty then
            some (realOfSixties negative (first :: groups) fraction)
          else none
        | [] => none

/-! ### Moments -/

/-- The number that digits write, as many of them as `lengths` allows. -/
def number? (lengths : List Nat) (cs : List Char) : Option Nat :=
  if lengths.contains cs.length && cs.all Char.isDigit then some (digitsIn 10 cs) else none

/-- The seconds of an offset: hours, and minutes if they are given. -/
def span? (cs : List Char) : Option Nat :=
  match Text.splitAt ':' cs with
  | [h] => (number? [1, 2] h).map (3600 * ·)
  | [h, m] =>
    match number? [1, 2] h, number? [2] m with
    | some h, some m => some (3600 * h + 60 * m)
    | _, _ => none
  | _ => none

/-- The offset behind a time of the day, which may be missing. -/
def offset? (cs : List Char) : Option (Option Int) :=
  match cs.dropWhile fun c => c == ' ' || c == '\t' with
  | [] => if cs.isEmpty then some none else none
  | ['Z'] => some (some 0)
  | '+' :: r => (span? r).map fun n => some (n : Int)
  | '-' :: r => (span? r).map fun n => some (-(n : Int))
  | _ => none

/-- The parts of a second in millionths; digits after the sixth do not count. -/
def micros (fraction : List Char) : Nat :=
  digitsIn 10 ((fraction ++ List.replicate 6 '0').take 6)

/-- The time of the day that a text writes: hours, minutes, seconds, perhaps parts of a second, and
perhaps an offset. -/
def clock? (cs : List Char) : Option Clock :=
  match Text.cutAt? [':'] cs with
  | none => none
  | some (h, rest) =>
    match rest with
    | m₁ :: m₂ :: ':' :: s₁ :: s₂ :: rest =>
      let (fraction, rest) :=
        match rest with
        | '.' :: r => (r.takeWhile Char.isDigit, r.dropWhile Char.isDigit)
        | r => ([], r)
      match number? [1, 2] h, number? [2] [m₁, m₂], number? [2] [s₁, s₂], offset? rest with
      | some h, some m, some s, some offset => some ⟨h, m, s, micros fraction, offset⟩
      | _, _, _, _ => none
    | _ => none

/-- The moment that a scalar is, if it is written as one. A day alone has two digits for its month
and its own number; before a clock there is a letter or a gap. -/
def moment? (cs : List Char) : Option Moment :=
  match Text.splitAt '-' (cs.takeWhile fun c => c.isDigit || c == '-') with
  | [y, m, d] =>
    let rest := cs.dropWhile fun c => c.isDigit || c == '-'
    match rest with
    | [] =>
      match number? [4] y, number? [2] m, number? [2] d with
      | some y, some m, some d => some ⟨y, m, d, none⟩
      | _, _, _ => none
    | c :: r =>
      let clock :=
        if c = 'T' ∨ c = 't' then clock? r
        else if c = ' ' ∨ c = '\t' then clock? (r.dropWhile fun c => c == ' ' || c == '\t')
        else none
      match number? [4] y, number? [1, 2] m, number? [1, 2] d, clock with
      | some y, some m, some d, some clock => some ⟨y, m, d, some clock⟩
      | _, _, _, _ => none
  | _ => none

/-- A moment that there is. -/
def checkedMoment (m : Moment) : Valued Datum :=
  match m.make with
  | .ok m => .ok (.moment m)
  | .error flaw => .error (.impossible flaw)

/-! ### All plain scalars -/

/-- The value of a plain scalar. -/
def plainValue (s : String) : Valued Datum :=
  let cs := s.toList
  match truthValue? s with
  | some b => .ok (.bool b)
  | none =>
    match real? cs with
    | some x => .ok (.real x)
    | none =>
      match integer? cs with
      | some n => n.map .int
      | none =>
        if isNullWord s then .ok .null
        else
          match moment? cs with
          | some m => checkedMoment m
          | none => if s = "<<" ∨ s = "=" then .error .malformed else .ok (.text s)

end AnchorIndex.Yaml
