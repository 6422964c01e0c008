/-!
# Bounded decimal numerals

A numeral is an optional sign and at least one digit; only a signed numeral may carry a minus.
Reading goes from the left and stops at the first fault: a character that is no digit, or a digit
that takes the value out of range. Both are judged at the same character, and there the character
that is no digit comes first.
-/

set_option autoImplicit false

namespace StorageBroker.Text.Numeral

/-- Why a text is not a numeral of the wanted range. -/
inductive Fault where
  | empty
  | invalidDigit
  | tooLarge
  | tooSmall
  deriving DecidableEq, Repr

/-- The wording of a fault. -/
def Fault.message : Fault → String
  | .empty => "cannot parse integer from empty string"
  | .invalidDigit => "invalid digit found in string"
  | .tooLarge => "number too large to fit in target type"
  | .tooSmall => "number too small to fit in target type"

/-- The value of a decimal digit. -/
def digitValue? (character : Char) : Option Nat :=
  if character.isDigit then some (character.toNat - '0'.toNat) else none

/-- Appends digits to the number `value`; a number above `bound` is the fault `overflow`. -/
def readDigits (bound : Nat) (overflow : Fault) (value : Nat) : List Char → Except Fault Nat
  | [] => .ok value
  | character :: rest =>
    match digitValue? character with
    | none => .error .invalidDigit
    | some digit =>
      if bound < value * 10 + digit then .error overflow
      else readDigits bound overflow (value * 10 + digit) rest

/-- A magnitude up to `bound`, of at least one digit. -/
def readMagnitude (bound : Nat) (overflow : Fault) : List Char → Except Fault Nat
  | [] => .error .invalidDigit
  | characters => readDigits bound overflow 0 characters

/-- The magnitude of the least signed number, which is the 63rd power of two. -/
def signedBound : Nat := 9223372036854775808

/-- A number from -2^63 to 2^63 - 1, with an optional sign. -/
def readSigned : List Char → Except Fault Int
  | [] => .error .empty
  | '-' :: digits => (readMagnitude signedBound .tooSmall digits).map fun value => -(value : Int)
  | '+' :: digits =>
    (readMagnitude (signedBound - 1) .tooLarge digits).map fun value => (value : Int)
  | digits => (readMagnitude (signedBound - 1) .tooLarge digits).map fun value => (value : Int)

/-- A number from 0 to 2^64 - 1, with an optional plus. -/
def readUnsigned : List Char → Except Fault Nat
  | [] => .error .empty
  | '+' :: digits => readMagnitude (UInt64.size - 1) .tooLarge digits
  | digits => readMagnitude (UInt64.size - 1) .tooLarge digits

/-- A 64-bit signed number, read from the whole text. -/
def signed (text : String) : Except Fault Int64 :=
  (readSigned text.toList).map Int64.ofInt

/-- A 64-bit unsigned number, read from the whole text. -/
def unsigned (text : String) : Except Fault UInt64 :=
  (readUnsigned text.toList).map UInt64.ofNat

end StorageBroker.Text.Numeral
