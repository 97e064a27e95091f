import AnchorIndex.Text.Numeral

/-!
# Bytes as text

Bytes are read as UTF-8 by a machine that goes through them one at a time (`feed`). Between two
characters it expects a first byte; inside one it expects the bytes that a well formed sequence
may still have (`Expected`). A sequence that breaks off is a flaw, and its bytes together give
one replacement character. `decodeLossy` is the text with the replacements and `firstFlaw?` the
first flaw, with the words in which it is reported.
-/

namespace AnchorIndex.Text.Utf8

/-- What a started sequence still needs: the number of its bytes so far, the number missing, the
bounds of the next one and the value read so far. -/
structure Expected where
  seen : Nat
  missing : Nat
  low : Nat
  high : Nat
  value : Nat

/-- What is wrong with bytes. -/
inductive Reason where
  | badStart
  | badContinuation
  /-- The bytes end inside of a sequence. -/
  | cutOff
  deriving DecidableEq, Repr

/-- A place where bytes are not UTF-8: the bytes from `first` up to and including `last`. -/
structure Flaw where
  first : Nat
  last : Nat
  byte : UInt8
  reason : Reason

/-- The machine: the characters read so far in reverse, the position of the next byte, the
sequence that is open with its first byte, and the first flaw. -/
structure Reader where
  read : List Char
  position : Nat
  opened : Option (Expected × UInt8)
  flaw : Option Flaw

/-- The sequence that a first byte opens, if it is one of several bytes. -/
def Expected.ofFirst? (b : Nat) : Option Expected :=
  if 0xC2 ≤ b ∧ b ≤ 0xDF then some ⟨1, 1, 0x80, 0xBF, b - 0xC0⟩
  else if b = 0xE0 then some ⟨1, 2, 0xA0, 0xBF, 0⟩
  else if b = 0xED then some ⟨1, 2, 0x80, 0x9F, 0xD⟩
  else if 0xE1 ≤ b ∧ b ≤ 0xEF then some ⟨1, 2, 0x80, 0xBF, b - 0xE0⟩
  else if b = 0xF0 then some ⟨1, 3, 0x90, 0xBF, 0⟩
  else if 0xF1 ≤ b ∧ b ≤ 0xF3 then some ⟨1, 3, 0x80, 0xBF, b - 0xF0⟩
  else if b = 0xF4 then some ⟨1, 3, 0x80, 0x8F, 4⟩
  else none

/-- The replacement character takes the place of a flaw, and the first flaw is kept. -/
def Reader.replace (r : Reader) (flaw : Flaw) : Reader :=
  { r with
    read := Char.ofNat 0xFFFD :: r.read
    opened := none
    flaw := r.flaw.or (some flaw) }

/-- A byte between two characters. -/
def Reader.feedFirst (r : Reader) (b : UInt8) : Reader :=
  let after :=
    if b < 0x80 then { r with read := Char.ofNat b.toNat :: r.read }
    else
      match Expected.ofFirst? b.toNat with
      | some e => { r with opened := some (e, b) }
      | none => r.replace ⟨r.position, r.position, b, .badStart⟩
  { after with position := r.position + 1 }

/-- One byte more. A byte that cannot go on with the open sequence ends it and is read anew. -/
def Reader.feed (r : Reader) (b : UInt8) : Reader :=
  match r.opened with
  | none => r.feedFirst b
  | some (e, start) =>
    if e.low ≤ b.toNat ∧ b.toNat ≤ e.high then
      let value := 64 * e.value + (b.toNat - 0x80)
      if e.missing ≤ 1 then
        { r with
          read := Char.ofNat value :: r.read
          position := r.position + 1
          opened := none }
      else
        { r with
          position := r.position + 1
          opened := some (⟨e.seen + 1, e.missing - 1, 0x80, 0xBF, value⟩, start) }
    else
      (r.replace ⟨r.position - e.seen, r.position - 1, start, .badContinuation⟩).feedFirst b

/-- The end of the bytes. -/
def Reader.finish (r : Reader) : Reader :=
  match r.opened with
  | none => r
  | some (e, start) =>
    r.replace ⟨r.position - e.seen, r.position - 1, start, .cutOff⟩

/-- The machine after all bytes. -/
def readBytes (bytes : List UInt8) : Reader :=
  (bytes.foldl Reader.feed ⟨[], 0, none, none⟩).finish

/-- The text of the bytes, with a replacement character for each flaw. -/
def decodeLossy (bytes : List UInt8) : List Char :=
  (readBytes bytes).read.reverse

/-- The first place where the bytes are not UTF-8. -/
def firstFlaw? (bytes : List UInt8) : Option Flaw :=
  (readBytes bytes).flaw

/-- The words for what is wrong. -/
def Reason.text : Reason → String
  | badStart => "invalid start byte"
  | badContinuation => "invalid continuation byte"
  | cutOff => "unexpected end of data"

/-- Bytes that are read piece by piece are read so many at once. -/
def pieceSize : Nat := 8192

/-- How many bytes before a position belong to a sequence that is open there. -/
def openBefore (bytes : List UInt8) (position : Nat) : Nat :=
  ((bytes.take position).foldl Reader.feed ⟨[], 0, none, none⟩).opened.elim 0 (·.1.seen)

/-- The sequence of the flaw begins half of a character of two, which is looked at only when a third
byte or the end of the bytes comes. -/
def Flaw.isHalf (bytes : List UInt8) (f : Flaw) : Bool :=
  f.byte == 0xED && (bytes[f.first + 1]?).any fun b => 0xA0 ≤ b && b ≤ 0xBF

/-- The position of the byte that shows a flaw; past all bytes if it is their end. -/
def Flaw.shownAt (bytes : List UInt8) (f : Flaw) : Nat :=
  match f.reason with
  | .badStart => f.first
  | .badContinuation => if f.isHalf bytes then f.first + 2 else f.last + 1
  | .cutOff => bytes.length

/-- The position from which a flaw is counted when bytes are read piece by piece. A sequence that
is open at the end of a piece goes to the front of the next one, the last of which is empty. -/
def Flaw.pieceStart (bytes : List UInt8) (f : Flaw) : Nat :=
  let shown := f.shownAt bytes
  let start := shown - shown % pieceSize
  if bytes.length ≤ shown ∨ f.first < start then f.first else start - openBefore bytes start

/-- The first place where bytes that are read piece by piece are not UTF-8. -/
def firstFlawInPieces? (bytes : List UInt8) : Option Flaw :=
  (firstFlaw? bytes).map fun f =>
    let start := f.pieceStart bytes
    { f with first := f.first - start, last := f.last - start }

/-- The report of a flaw names its one byte, or its positions if there are several. -/
def Flaw.message (f : Flaw) : String :=
  let place :=
    if f.first = f.last then
      "byte 0x" ++ hexadecimal 2 f.byte.toNat ++ " in position " ++ toString f.first
    else "bytes in position " ++ toString f.first ++ "-" ++ toString f.last
  "'utf-8' codec can't decode " ++ place ++ ": " ++ f.reason.text

end AnchorIndex.Text.Utf8
