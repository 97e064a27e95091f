/-!
# Points in time

A `Moment` is a day of the calendar, with a time of the day if its clock is known. `Moment.make`
builds one from numbers and reports the first number that is out of its range; `display` is the
text of a moment in a message, and `quoted` its text inside other data.
-/

namespace AnchorIndex

/-- A time of the day; `offset` is how many seconds it is ahead of universal time. -/
structure Clock where
  hour : Nat
  minute : Nat
  second : Nat
  micro : Nat
  offset : Option Int
  deriving DecidableEq, Repr

/-- A day of the calendar, with a time of the day if that is given. -/
structure Moment where
  year : Nat
  month : Nat
  day : Nat
  clock : Option Clock
  deriving DecidableEq, Repr

/-- A number with zeros in front up to a number of digits. -/
def padded (digits n : Nat) : String :=
  let s := toString n
  String.ofList (List.replicate (digits - s.length) '0') ++ s

/-! ### Ranges -/

/-- The year is a leap year. -/
def isLeap (year : Nat) : Bool :=
  year % 4 == 0 && (year % 100 != 0 || year % 400 == 0)

/-- The number of days of a month. -/
def daysIn (year month : Nat) : Nat :=
  if month = 2 then (if isLeap year then 29 else 28)
  else if [4, 6, 9, 11].contains month then 30
  else 31

/-- The number of seconds of a day. -/
def daySeconds : Nat := 86400

/-- A span of time in seconds, as days and the seconds of a day after them. -/
def spanText (seconds : Int) : String :=
  let part (name : String) (n : Int) : List String :=
    if n = 0 then [] else [name ++ "=" ++ toString n]
  let parts := part "days" (seconds.fdiv daySeconds) ++ part "seconds" (seconds.fmod daySeconds)
  "datetime.timedelta(" ++ (if parts.isEmpty then "0" else ", ".intercalate parts) ++ ")"

/-- What is said of an offset of a day or more. -/
def offsetFlaw? (offset : Int) : Option String :=
  if offset.natAbs < daySeconds then none
  else
    some ("offset must be a timedelta strictly between -timedelta(hours=24) and timedelta(hours=24), not "
      ++ spanText offset ++ ".")

/-- What is said of a clock that no day has. -/
def Clock.flaw? (c : Clock) : Option String :=
  if 23 < c.hour then some "hour must be in 0..23"
  else if 59 < c.minute then some "minute must be in 0..59"
  else if 59 < c.second then some "second must be in 0..59"
  else none

namespace Moment

/-- What is said of a moment that there is not. -/
def flaw? (m : Moment) : Option String :=
  (m.clock.bind fun c => c.offset.bind offsetFlaw?).or <|
    if m.year = 0 then some "year 0 is out of range"
    else if m.month = 0 ∨ 12 < m.month then some "month must be in 1..12"
    else if m.day = 0 ∨ daysIn m.year m.month < m.day then some "day is out of range for month"
    else m.clock.bind (·.flaw?)

/-- The moment, if there is one. -/
def make (m : Moment) : Except String Moment :=
  match m.flaw? with
  | none => .ok m
  | some flaw => .error flaw

/-! ### Texts -/

/-- An offset in hours and minutes with its sign. -/
def offsetText (offset : Int) : String :=
  let minutes := offset.natAbs / 60
  (if offset < 0 then "-" else "+") ++ padded 2 (minutes / 60) ++ ":" ++ padded 2 (minutes % 60)

/-- A time of the day in a message. -/
def clockText (c : Clock) : String :=
  padded 2 c.hour ++ ":" ++ padded 2 c.minute ++ ":" ++ padded 2 c.second ++
    (if c.micro = 0 then "" else "." ++ padded 6 c.micro) ++ (c.offset.map offsetText).getD ""

/-- A moment in a message. -/
def display (m : Moment) : String :=
  padded 4 m.year ++ "-" ++ padded 2 m.month ++ "-" ++ padded 2 m.day ++
    ((m.clock.map fun c => " " ++ clockText c).getD "")

/-- The numbers of a clock that are written inside other data: seconds and their parts only
where they are not zero. -/
def clockNumbers (c : Clock) : List Nat :=
  [c.hour, c.minute] ++
    (if c.micro ≠ 0 then [c.second, c.micro] else if c.second ≠ 0 then [c.second] else [])

/-- An offset inside other data. -/
def zoneText (offset : Int) : String :=
  if offset = 0 then "datetime.timezone.utc" else "datetime.timezone(" ++ spanText offset ++ ")"

/-- The name of the kind of value that a moment is. -/
def shape (m : Moment) : String :=
  if m.clock.isSome then "datetime.datetime" else "datetime.date"

/-- A moment inside other data. -/
def quoted (m : Moment) : String :=
  let clock := (m.clock.map clockNumbers).getD []
  let zone := (m.clock.bind (·.offset)).map fun o => "tzinfo=" ++ zoneText o
  m.shape ++ "(" ++
    ", ".intercalate (([m.year, m.month, m.day] ++ clock).map toString ++ zone.toList) ++ ")"

end Moment

end AnchorIndex
