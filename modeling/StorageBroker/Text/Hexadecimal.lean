/-!
# Hexadecimal digits

Escapes give characters by their code points in hexadecimal, with letters of either case.
-/

set_option autoImplicit false

namespace StorageBroker.Text

/-- The value of a hexadecimal digit. -/
def hexValue? (character : Char) : Option Nat :=
  let code := character.toNat
  if character.isDigit then some (code - '0'.toNat)
  else if 'a'.toNat ≤ code ∧ code ≤ 'f'.toNat then some (code - 'a'.toNat + 10)
  else if 'A'.toNat ≤ code ∧ code ≤ 'F'.toNat then some (code - 'A'.toNat + 10)
  else none

end StorageBroker.Text
