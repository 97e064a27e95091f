/-!
# Shortest decimal texts

A binary floating point number stands for the interval of all numbers that round to it, and it is
written with the fewest significant digits of a number in that interval (`shortest`). Among the
numbers with so few digits the nearest is taken, and of two equally near ones the even one.

`Layout` tells how digits become a text: which powers of ten are written positionally. `render`
puts digits and layout together.
-/

namespace AnchorIndex.Text.Decimal

/-- A positive number `mantissa * 2 ^ exponent` as a floating point number holds it; `narrow`
when the numbers below it lie half as far as those above. -/
structure Binary where
  mantissa : Nat
  exponent : Int
  narrow : Bool

/-- The decimal number `digits * 10 ^ power`. -/
structure Scaled where
  digits : Nat
  power : Int

/-- The number of a finite double without its sign. -/
def Binary.ofFloat (x : Float) : Binary :=
  let bits : Nat := x.toBits.toNat
  let fraction : Nat := bits % Nat.pow 2 52
  let biased : Nat := bits / Nat.pow 2 52 % Nat.pow 2 11
  if biased = 0 then ⟨fraction, -1074, false⟩
  else ⟨fraction + Nat.pow 2 52, (biased : Int) - 1075, fraction == 0 && biased > 1⟩

/-- The quotient `n * 2 ^ e / 10 ^ p` as a numerator and a denominator. -/
def quotient (n : Nat) (e p : Int) : Nat × Nat :=
  (n * Nat.pow 2 e.toNat * Nat.pow 10 (-p).toNat, Nat.pow 2 (-e).toNat * Nat.pow 10 p.toNat)

/-- The least `k ≤ top` from `top - fuel` on with the number below `10 ^ k`. -/
def magnitudeFrom (b : Binary) : Nat → Int → Int
  | 0, top => top
  | fuel + 1, top =>
    let (n, d) := quotient b.mantissa b.exponent (top - 1)
    if n < d then magnitudeFrom b fuel (top - 1) else top

/-- The power of ten just above the number. Every finite double lies between `10 ^ -330` and
`10 ^ 310`. -/
def magnitude (b : Binary) : Int :=
  magnitudeFrom b 640 310

/-- A decimal number of the grid `10 ^ power` rounds to the binary number: it lies in the
interval, whose ends count when the mantissa is even. All is measured in quarters of a unit in
the last binary place. -/
def Binary.holds (b : Binary) (c : Scaled) : Bool :=
  let (n, d) := quotient 1 (b.exponent - 2) c.power
  let low := (4 * b.mantissa - if b.narrow then 1 else 2) * n
  let high := (4 * b.mantissa + 2) * n
  if b.mantissa % 2 = 0 then low ≤ c.digits * d && c.digits * d ≤ high
  else low < c.digits * d && c.digits * d < high

/-- The number of the grid `10 ^ power` next to the binary number and rounding to it. -/
def Binary.onGrid? (b : Binary) (power : Int) : Option Scaled :=
  let (n, d) := quotient b.mantissa b.exponent power
  let below : Scaled := ⟨n / d, power⟩
  let above : Scaled := ⟨n / d + 1, power⟩
  match b.holds below, b.holds above with
  | true, true =>
    let twice := 2 * (n % d)
    if twice < d || (twice == d && (n / d) % 2 == 0) then some below else some above
  | true, false => some below
  | false, true => some above
  | false, false => none

/-- The shortest decimal number that rounds to the binary number; seventeen digits always do. -/
def shortest (b : Binary) : Scaled :=
  let k := magnitude b
  ((List.range 17).findSome? fun i : Nat => b.onGrid? (k - (i + 1 : Nat))).getD ⟨0, 0⟩

/-- How a decimal number is written: positionally when the power of ten of its first digit lies
in the given bounds, and otherwise with an exponent. -/
structure Layout where
  leastPower : Int
  greatestPower : Int

/-- Numbers are written positionally from `0.0001` up to below `10 ^ 16`. -/
def Layout.standard : Layout := ⟨-4, 15⟩

/-- An exponent has a sign and at least two digits. -/
def exponentText (e : Int) : String :=
  let ds := toString e.natAbs
  (if e < 0 then "e-" else "e+") ++ (if ds.length < 2 then "0" else "") ++ ds

/-- The digits without the zeros at their end. -/
def significant (n : Nat) : List Char :=
  ((Nat.toDigits 10 n).reverse.dropWhile (· == '0')).reverse

/-- The text of a positive decimal number. A positional number has a digit after the point. -/
def Layout.render (layout : Layout) (c : Scaled) : String :=
  let ds := significant c.digits
  let point : Int := (Nat.toDigits 10 c.digits).length + c.power
  let power := point - 1
  if layout.leastPower ≤ power ∧ power ≤ layout.greatestPower then
    if point ≤ 0 then
      "0." ++ String.ofList (List.replicate (-point).toNat '0' ++ ds)
    else if ds.length ≤ point.toNat then
      String.ofList (ds ++ List.replicate (point.toNat - ds.length) '0') ++ ".0"
    else String.ofList (ds.take point.toNat) ++ "." ++ String.ofList (ds.drop point.toNat)
  else
    match ds with
    | [] => "0.0"
    | d :: [] => String.ofList [d] ++ exponentText power
    | d :: r => String.ofList (d :: '.' :: r) ++ exponentText power

/-- The shortest text of a finite floating point number that reads back as the number. -/
def render (x : Float) : String :=
  let sign := if x.toBits.toNat ≥ Nat.pow 2 63 then "-" else ""
  let b := Binary.ofFloat x
  if b.mantissa = 0 then sign ++ "0.0" else sign ++ Layout.standard.render (shortest b)

/-- The floating point number nearest to `± digits * 10 ^ power`. Powers out of all range give
zero or infinity at once. -/
def readReal (negative : Bool) (digits : Nat) (power : Int) : Float :=
  let size := (Nat.toDigits 10 digits).length + power
  let x :=
    if digits = 0 || size < -400 then 0.0
    else if size > 400 then 1.0 / 0.0
    else Float.ofScientific digits (decide (power < 0)) power.natAbs
  if negative then -x else x

end AnchorIndex.Text.Decimal
