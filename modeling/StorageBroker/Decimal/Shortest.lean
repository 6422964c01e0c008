import StorageBroker.Decimal.Binary64

/-!
# Shortest decimal numerals

A finite binary number is written with the fewest decimal digits that lead back to it. The
numbers that round to it form an interval around it, with both ends when its significand is even.
Going down the powers of ten, the first grid with a point in that interval gives the digits; of
two such points the nearer is taken.

A notation decides which of two equally near points is taken, from where on a power of ten is used,
and how whole numbers are marked. Three of them are needed: one for JSON texts, one for records, and
one for running text.
-/

set_option autoImplicit false

namespace StorageBroker.Decimal

/-- A whole number of units `10 ^ power`. -/
structure Digits where
  units : Nat
  power : Int
  deriving DecidableEq, Repr

/-- Which of two points is taken that lie equally near. -/
inductive Tie where
  | even
  | away
  deriving DecidableEq, Repr

/-- Whether the point `below` is taken, of two that lie equally near. -/
def Tie.takesBelow (tie : Tie) (below : Nat) : Bool :=
  match tie with
  | .even => below % 2 == 0
  | .away => false

/-! ## The interval of a number -/

/-- A positive number and the ends of its interval, in quarters of its last binary place. -/
structure Neighbourhood where
  low : Nat
  centre : Nat
  high : Nat
  /-- The power of two that one quarter stands for. -/
  exponent : Int
  /-- Whether the ends belong to the interval. -/
  closed : Bool
  deriving Repr

/-- The numbers that round to `significand * 2 ^ exponent`. Below a power of two the neighbour is
only half as far away. -/
def neighbourhood (significand : Nat) (exponent : Int) : Neighbourhood where
  low :=
    if significand = Binary64.fullPrecision ∧ Binary64.leastExponent < exponent then
      4 * significand - 1
    else 4 * significand - 2
  centre := 4 * significand
  high := 4 * significand + 2
  exponent := exponent - 2
  closed := significand % 2 = 0

/-- A natural number of quarters and one of units of ten, brought to a common denominator. -/
def commonScale (exponent power : Int) : Nat × Nat :=
  (Nat.pow 2 exponent.toNat * Nat.pow 10 (-power).toNat,
    Nat.pow 2 (-exponent).toNat * Nat.pow 10 power.toNat)

/-- Whether `units * 10 ^ power` lies in the interval. -/
def Neighbourhood.contains (around : Neighbourhood) (power : Int) (units : Nat) : Bool :=
  let (quarter, unit) := commonScale around.exponent power
  if around.closed then around.low * quarter ≤ units * unit && units * unit ≤ around.high * quarter
  else around.low * quarter < units * unit && units * unit < around.high * quarter

/-- The point of the grid `10 ^ power` in the interval that is nearest to its centre. -/
def Neighbourhood.nearest? (around : Neighbourhood) (tie : Tie) (power : Int) : Option Digits :=
  let (quarter, unit) := commonScale around.exponent power
  let below := around.centre * quarter / unit
  let belowFits := around.contains power below && below != 0
  let aboveFits := around.contains power (below + 1)
  let twice := 2 * (around.centre * quarter % unit)
  if belowFits && aboveFits then
    if twice < unit || (twice == unit && tie.takesBelow below) then some ⟨below, power⟩
    else some ⟨below + 1, power⟩
  else if belowFits then some ⟨below, power⟩
  else if aboveFits then some ⟨below + 1, power⟩
  else none

/-- Tries the grids from `power` downwards. -/
def Neighbourhood.firstGrid (around : Neighbourhood) (tie : Tie) (power : Int) : Nat → Digits
  | 0 => ⟨0, 0⟩
  | grids + 1 =>
    match around.nearest? tie power with
    | some digits => digits
    | none => around.firstGrid tie (power - 1) grids

/-- The digits of a positive number. A power of ten above the number comes first, and 17 digits
always lead back, so twenty grids are enough. -/
def shortest (tie : Tie) (significand : Nat) (exponent : Int) : Digits :=
  let magnitude : Int := significand.log2 + exponent + 1
  (neighbourhood significand exponent).firstGrid tie (Int.fdiv (magnitude * 30103) 100000 + 1) 20

/-! ## Notations -/

/-- The decisions of a notation. -/
structure Form where
  tie : Tie
  /-- How many zeros may stand between the point and the first digit, if there is a bound. -/
  leadingZeros : Option Nat
  /-- How many digits may stand before the point, if there is a bound. -/
  wholeDigits : Option Nat
  /-- What follows a whole number. -/
  wholeMark : String
  /-- The sign of a power of ten that is not negative. -/
  powerSign : String
  deriving DecidableEq

/-- Powers of ten below 1e-5 and from 1e16 on, with a sign; whole numbers end in `.0`; of two
equally near points the even one. -/
def Form.compact : Form := ⟨.even, some 4, some 16, ".0", "+"⟩

/-- Powers of ten below 1e-4 and from 1e16 on, without a plus; whole numbers end in `.0`; of two
equally near points the one away from zero. -/
def Form.short : Form := ⟨.away, some 3, some 16, ".0", ""⟩

/-- No powers of ten; of two equally near points the one away from zero. -/
def Form.plain : Form := ⟨.away, none, none, "", ""⟩

/-- Digits with the decimal point behind `position` of them; before the first if not positive. -/
def positional (form : Form) (digits : String) (position : Int) : String :=
  let count : Int := digits.length
  if position ≤ 0 then
    "0." ++ String.ofList (List.replicate (-position).toNat '0') ++ digits
  else if count ≤ position then
    digits ++ String.ofList (List.replicate (position - count).toNat '0') ++ form.wholeMark
  else
    String.ofList (digits.toList.take position.toNat) ++ "." ++
      String.ofList (digits.toList.drop position.toNat)

/-- One digit, the others behind the point, and a power of ten. -/
def scientific (form : Form) (digits : String) (position : Int) : String :=
  let fraction := String.ofList (digits.toList.drop 1)
  let leading := String.ofList (digits.toList.take 1)
  let power := position - 1
  leading ++ (if fraction = "" then "" else "." ++ fraction) ++ "e" ++
    (if power < 0 then "-" else form.powerSign) ++ toString power.natAbs

/-- Whether a number with the point at `position` is written without a power of ten. -/
def Form.isPositional (form : Form) (position : Int) : Bool :=
  (form.leadingZeros.all fun zeros => -(zeros : Int) ≤ position) &&
    form.wholeDigits.all fun digits => position ≤ digits

/-- A positive number from its digits. -/
def writeDigits (form : Form) (number : Digits) : String :=
  let digits := toString number.units
  let position : Int := digits.length + number.power
  if form.isPositional position then positional form digits position
  else scientific form digits position

/-- A number in a notation. -/
def write (form : Form) : Binary64 → String
  | .undefined => "NaN"
  | .infinite negative => if negative then "-inf" else "inf"
  | .finite negative significand exponent =>
    (if negative then "-" else "") ++
      (if significand = 0 then "0" ++ form.wholeMark
      else writeDigits form (shortest form.tie significand exponent))

end StorageBroker.Decimal
