import StorageBroker.Json.Value

/-!
# JSON numerals

A numeral has a whole part without leading zeros, and may have a sign, a fraction and an exponent.
Its digits make up a significand of 64 bits; from the first digit on that would not fit, the
digits of a part are passed over. A numeral without fraction and exponent whose significand holds
all its digits is an integer, except minus zero; every other one is the binary number that comes
from the rounded significand by one multiplication with, or division by, a power of ten. A numeral
whose binary number would be infinite has no value.
-/

set_option autoImplicit false

namespace StorageBroker.Json

/-- A numeral by its parts. -/
structure Numeral where
  negative : Bool
  whole : List Char
  /-- The digits behind the point, if there is one. -/
  fraction : Option (List Char)
  /-- Whether the exponent is negative, and its digits. -/
  exponent : Option (Bool × List Char)
  deriving DecidableEq

namespace Numeral

/-! ## Reading the parts -/

/-- The digits at the front and the rest. -/
def spanDigits (characters : List Char) : List Char × List Char :=
  (characters.takeWhile Char.isDigit, characters.dropWhile Char.isDigit)

/-- The whole part: one zero, or digits that do not begin with zero. -/
def readWhole (characters : List Char) : Option (List Char × List Char) :=
  match spanDigits characters with
  | ([], _) => none
  | ('0' :: _ :: _, _) => none
  | parts => some parts

/-- The fraction, if a point follows. -/
def readFraction : List Char → Option (Option (List Char) × List Char)
  | '.' :: characters =>
    match spanDigits characters with
    | ([], _) => none
    | (digits, rest) => some (some digits, rest)
  | characters => some (none, characters)

/-- The sign of an exponent. -/
def readExponentSign : List Char → Bool × List Char
  | '+' :: characters => (false, characters)
  | '-' :: characters => (true, characters)
  | characters => (false, characters)

/-- The exponent, if its mark follows. -/
def readExponent (characters : List Char) : Option (Option (Bool × List Char) × List Char) :=
  match characters with
  | 'e' :: marked | 'E' :: marked =>
    let (negative, unsigned) := readExponentSign marked
    match spanDigits unsigned with
    | ([], _) => none
    | (digits, rest) => some (some (negative, digits), rest)
  | _ => some (none, characters)

/-- A numeral at the front of the characters. -/
def read (characters : List Char) : Option (Numeral × List Char) := do
  let (negative, unsigned) := match characters with
    | '-' :: rest => (true, rest)
    | _ => (false, characters)
  let (whole, rest) ← readWhole unsigned
  let (fraction, rest) ← readFraction rest
  let (exponent, rest) ← readExponent rest
  some (⟨negative, whole, fraction, exponent⟩, rest)

/-! ## The value -/

/-- Appends digits as long as the significand fits 64 bits; the digits that were not appended
remain. -/
def accumulate (significand : Nat) : List Char → Nat × List Char
  | [] => (significand, [])
  | digit :: rest =>
    let next := significand * 10 + (digit.toNat - '0'.toNat)
    if next < UInt64.size then accumulate next rest else (significand, digit :: rest)

/-- The number that digits stand for. -/
def digitsValue (digits : List Char) : Nat := Nat.ofDigitChars 10 digits 0

/-- The binary number for `significand * 10 ^ power`, unless it is infinite. A power beyond 308
is taken in several steps. -/
def scaleByTen : Nat → Binary64 → Int → Option Binary64
  | 0, _, _ => none
  | steps + 1, number, power =>
    if 308 < power then if number.isZero then some number else none
    else if 0 ≤ power then
      match number.multiply (Binary64.ofInt (Nat.pow 10 power.toNat)) with
      | .infinite _ => none
      | product => some product
    else if -308 ≤ power then some (number.divide (Binary64.ofInt (Nat.pow 10 (-power).toNat)))
    else if number.isZero then some number
    else scaleByTen steps (number.divide (Binary64.ofInt (Nat.pow 10 308))) (power + 308)

/-- A binary number from a significand and a power of ten. Three divisions by 1e308 leave nothing
of a significand of 64 bits, so five steps are enough. -/
def toBinary64 (negative : Bool) (significand : Nat) (power : Int) : Option Binary64 :=
  (scaleByTen 5 (Binary64.ofInt significand) power).map fun number =>
    if negative then number.negate else number

/-- The exponent of ten with its sign. -/
def signedExponent : Option (Bool × List Char) → Int
  | none => 0
  | some (negative, digits) => if negative then -(digitsValue digits : Int) else digitsValue digits

/-- An integer of the significand, which fits 64 bits. Minus zero, and what is below the signed
range, are no integers. -/
def toInteger? (negative : Bool) (significand : Nat) : Option Number :=
  if negative then
    if range : 0 < significand ∧ significand ≤ 9223372036854775808 then
      some (.integer (-(significand : Int)) (by omega))
    else none
  else
    if range : significand < 18446744073709551616 then
      some (.integer significand (by omega))
    else none

/-- The value of a numeral, unless it is too large. -/
def value? (numeral : Numeral) : Option Number :=
  let (significand, passed) := accumulate 0 numeral.whole
  let exponent := signedExponent numeral.exponent
  match numeral.fraction, numeral.exponent, passed, toInteger? numeral.negative significand with
  | none, none, [], some integer => some integer
  | fraction, _, _, _ =>
    let digits := fraction.getD []
    let (extended, dropped) := accumulate significand digits
    let power : Int := passed.length - (digits.length - dropped.length : Nat) + exponent
    (toBinary64 numeral.negative extended power).map .real

end Numeral

end StorageBroker.Json
