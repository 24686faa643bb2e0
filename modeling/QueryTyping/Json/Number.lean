import QueryTyping.Json.Basic

/-!
# Numerals

A numeral is an optional sign, digits without a leading zero, and optionally a fraction and an
exponent. A numeral without fraction and exponent that fits into 64 bits, signed or unsigned, is
an integer; `-0` is not. Every other numeral is a decimal fraction of at most 64 bits: digits that
do not fit any more only count for the power of ten.

The floating-point value of a decimal fraction is its significand, rounded, times or divided by the
power of ten, rounded again; a power beyond the table of powers is applied in steps.
-/

namespace QueryTyping

/-- The parts of a numeral as they are written. -/
structure Numeral where
  negative : Bool
  /-- The digits before the point. -/
  whole : List Char
  /-- The digits behind the point, if there is one. -/
  fraction : Option (List Char)
  /-- The exponent, if there is one. -/
  exponent : Option Int

namespace Numeral

/-- The value of a digit. -/
def digitValue (c : Char) : Nat := c.toNat - '0'.toNat

/-- The value of a sequence of digits. -/
def digitsValue (digits : List Char) : Nat :=
  digits.foldl (fun value c => value * 10 + digitValue c) 0

/-- Reads an exponent: an optional sign and at least one digit. -/
def readExponent (cs : List Char) : Option Int :=
  let (negative, digits) :=
    match cs with
    | '-' :: rest => (true, rest)
    | '+' :: rest => (false, rest)
    | rest => (false, rest)
  if digits.isEmpty || !digits.all Char.isDigit then none
  else if negative then some (-(digitsValue digits : Int)) else some (digitsValue digits)

/-- Whether digits may stand before the point: there is one, and it is zero only if it is alone. -/
def isWhole : List Char → Bool
  | [] => false
  | '0' :: rest => rest.isEmpty
  | _ :: _ => true

/-- Reads what follows the digits before the point: an exponent or nothing. -/
def readTail (cs : List Char) : Option (Option Int) :=
  match cs with
  | [] => some none
  | c :: rest => if c = 'e' || c = 'E' then (readExponent rest).map some else none

/-- Reads a numeral. -/
def read? (cs : List Char) : Option Numeral :=
  let (negative, cs) :=
    match cs with
    | '-' :: rest => (true, rest)
    | rest => (false, rest)
  let whole := cs.takeWhile Char.isDigit
  if !isWhole whole then none
  else
    match cs.dropWhile Char.isDigit with
    | '.' :: rest =>
      let fraction := rest.takeWhile Char.isDigit
      if fraction.isEmpty then none
      else (readTail (rest.dropWhile Char.isDigit)).map (⟨negative, whole, some fraction, ·⟩)
    | rest => (readTail rest).map (⟨negative, whole, none, ·⟩)

/-- Appends digits to a significand as long as it fits into 64 bits. Yields the significand and the
digits that are left. -/
def takeDigits (significand : Nat) : List Char → Nat × List Char
  | [] => (significand, [])
  | c :: rest =>
    let longer := significand * 10 + digitValue c
    if longer < UInt64.size then takeDigits longer rest else (significand, c :: rest)

/-- The number that a numeral stands for. -/
def toNumber (numeral : Numeral) : JsonNumber :=
  let (significand, left) := takeDigits 0 numeral.whole
  match numeral.fraction, numeral.exponent with
  | none, none =>
    if !left.isEmpty then .decimal numeral.negative significand left.length
    else if !numeral.negative then .integer significand
    else if 0 < significand && significand ≤ Nat.pow 2 63 then .integer (-(significand : Int))
    else .decimal true significand 0
  | fraction, exponent =>
    let digits := fraction.getD []
    let (longer, ignored) := takeDigits significand digits
    let places : Int := digits.length - ignored.length
    .decimal numeral.negative longer (left.length - places + exponent.getD 0)

end Numeral

namespace JsonNumber

/-- The greatest power of ten in the table of powers. -/
def maxPower : Nat := 308

/-- A power of ten of the table. -/
def powerOfTen (n : Nat) : Float := Float.ofScientific 1 false n

/-- A number times a power of ten, if that is finite. -/
def scale? (x : Float) (exponent : Int) : Option Float :=
  if 0 ≤ exponent then
    if exponent ≤ maxPower then
      let scaled := x * powerOfTen exponent.toNat
      if scaled.isInf then none else some scaled
    else if x == 0.0 then some x else none
  else if -exponent ≤ maxPower then some (x / powerOfTen (-exponent).toNat)
  else if x == 0.0 then some x
  else scale? (x / powerOfTen maxPower) (exponent + maxPower)
termination_by (-exponent).toNat
decreasing_by simp only [maxPower] at *; omega

/-- The floating-point value of a number, if that is finite. -/
def toFloat? : JsonNumber → Option Float
  | integer value => some (Float.ofInt value)
  | decimal negative significand exponent =>
    (scale? (Float.ofNat significand) exponent).map fun x => if negative then -x else x

end JsonNumber

/-- The floating-point number that a value is. -/
def Json.float? : Json → Option Float
  | .number value => value.toFloat?
  | _ => none

end QueryTyping
