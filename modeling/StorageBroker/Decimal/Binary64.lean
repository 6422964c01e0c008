/-!
# Binary floating point of 64 bits

A finite number is a sign, a significand and a power of two. `ofRatio` rounds a quotient of two
natural numbers to the nearest of them, a tie to the even significand; multiplication and
division are the exact result so rounded. A significand has at most 53 bits, and 53 unless the
exponent is the least one, so each number has one representation.
-/

set_option autoImplicit false

namespace StorageBroker

/-- A number of 53 significant bits, an infinity, or no number. -/
inductive Binary64 where
  /-- The number `significand * 2 ^ exponent` with a sign. -/
  | finite (negative : Bool) (significand : Nat) (exponent : Int)
  | infinite (negative : Bool)
  | undefined
  deriving DecidableEq, Repr

namespace Binary64

/-- The least exponent of a finite number. -/
def leastExponent : Int := -1074

/-- The greatest exponent of a finite number. -/
def greatestExponent : Int := 971

/-- The least significand of 53 bits, which is the 52nd power of two. -/
def fullPrecision : Nat := 4503599627370496

/-! ## Rounding -/

/-- The quotient rounded to the nearest natural number, a tie to the even one. -/
def divideToNearest (numerator denominator : Nat) : Nat :=
  let quotient := numerator / denominator
  let twice := 2 * (numerator % denominator)
  if twice < denominator then quotient
  else if denominator < twice then quotient + 1
  else quotient + quotient % 2

/-- `numerator / (denominator * 2 ^ exponent)`, rounded to the nearest natural number. -/
def scaleToNearest (numerator denominator : Nat) (exponent : Int) : Nat :=
  if 0 ≤ exponent then divideToNearest numerator (denominator * Nat.pow 2 exponent.toNat)
  else divideToNearest (numerator * Nat.pow 2 (-exponent).toNat) denominator

/-- Whether `numerator / denominator` is below `2 ^ 52 * 2 ^ exponent`. -/
def isBelowPrecision (numerator denominator : Nat) (exponent : Int) : Bool :=
  if 0 ≤ exponent then numerator < denominator * Nat.pow 2 exponent.toNat * fullPrecision
  else numerator * Nat.pow 2 (-exponent).toNat < denominator * fullPrecision

/-- The exponent at which a positive quotient has a whole part of 53 bits, or the least one. -/
def exponentOf (numerator denominator : Nat) : Int :=
  let estimate : Int := (numerator.log2 : Int) - denominator.log2 - 52
  let exact := if isBelowPrecision numerator denominator estimate then estimate - 1 else estimate
  max exact leastExponent

/-- The number nearest to a quotient of positive denominator. -/
def ofRatio (negative : Bool) (numerator denominator : Nat) : Binary64 :=
  if numerator = 0 then .finite negative 0 leastExponent
  else
    let exponent := exponentOf numerator denominator
    let significand := scaleToNearest numerator denominator exponent
    let carried := significand = 2 * fullPrecision
    let exponent := if carried then exponent + 1 else exponent
    if greatestExponent < exponent then .infinite negative
    else .finite negative (if carried then fullPrecision else significand) exponent

/-- The number nearest to `numerator / denominator * 2 ^ exponent`. -/
def ofDyadic (negative : Bool) (numerator denominator : Nat) (exponent : Int) : Binary64 :=
  if 0 ≤ exponent then ofRatio negative (numerator * Nat.pow 2 exponent.toNat) denominator
  else ofRatio negative numerator (denominator * Nat.pow 2 (-exponent).toNat)

/-- The number nearest to an integer. -/
def ofInt (value : Int) : Binary64 := ofRatio (value < 0) value.natAbs 1

/-! ## Arithmetic -/

/-- The number with the other sign. -/
def negate : Binary64 → Binary64
  | .finite negative significand exponent => .finite (!negative) significand exponent
  | .infinite negative => .infinite (!negative)
  | .undefined => .undefined

/-- Whether the number is zero, of either sign. -/
def isZero : Binary64 → Bool
  | .finite _ significand _ => significand == 0
  | _ => false

/-- The product. -/
def multiply : Binary64 → Binary64 → Binary64
  | .finite leftSign left leftExponent, .finite rightSign right rightExponent =>
    ofDyadic (leftSign != rightSign) (left * right) 1 (leftExponent + rightExponent)
  | .infinite leftSign, .infinite rightSign => .infinite (leftSign != rightSign)
  | .infinite leftSign, .finite rightSign right _ =>
    if right = 0 then .undefined else .infinite (leftSign != rightSign)
  | .finite leftSign left _, .infinite rightSign =>
    if left = 0 then .undefined else .infinite (leftSign != rightSign)
  | _, _ => .undefined

/-- The quotient. -/
def divide : Binary64 → Binary64 → Binary64
  | .finite leftSign left leftExponent, .finite rightSign right rightExponent =>
    if right = 0 then
      if left = 0 then .undefined else .infinite (leftSign != rightSign)
    else ofDyadic (leftSign != rightSign) left right (leftExponent - rightExponent)
  | .infinite leftSign, .finite rightSign _ _ => .infinite (leftSign != rightSign)
  | .finite leftSign _ _, .infinite rightSign => .finite (leftSign != rightSign) 0 leastExponent
  | _, _ => .undefined

/-- The significand with its sign. -/
def signed (negative : Bool) (significand : Nat) : Int :=
  if negative then -(significand : Int) else significand

/-- Whether the left number is below the right one; never where either is no number. -/
def less : Binary64 → Binary64 → Bool
  | .finite leftSign left leftExponent, .finite rightSign right rightExponent =>
    let least := min leftExponent rightExponent
    signed leftSign left * Nat.pow 2 (leftExponent - least).toNat <
      signed rightSign right * Nat.pow 2 (rightExponent - least).toNat
  | .infinite leftSign, .infinite rightSign => leftSign && !rightSign
  | .infinite leftSign, .finite .. => leftSign
  | .finite .., .infinite rightSign => !rightSign
  | _, _ => false

/-- Whether the left number is at most the right one; never where either is no number. -/
def atMost : Binary64 → Binary64 → Bool
  | .undefined, _ => false
  | _, .undefined => false
  | left, right => !less right left

/-- The greatest integer that is not above a finite number. -/
def floor? : Binary64 → Option Int
  | .finite negative significand exponent =>
    if 0 ≤ exponent then some (signed negative significand * Nat.pow 2 exponent.toNat)
    else some (Int.fdiv (signed negative significand) (Nat.pow 2 (-exponent).toNat))
  | _ => none

/-- The floor as a 64-bit integer; what is out of range becomes the nearest end of the range. -/
def floorToInt64 : Binary64 → Int64
  | .infinite negative => if negative then Int64.minValue else Int64.maxValue
  | number => Int64.ofIntClamp (number.floor?.getD 0)

end Binary64

end StorageBroker
