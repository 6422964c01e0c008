/-!
# Ranges of code points

A set of code points is written as a list of closed ranges in ascending order.
-/

set_option autoImplicit false

namespace StorageBroker.Text

/-- Whether a code point lies in one of the ascending ranges. -/
def inRanges (code : Nat) : List (Nat × Nat) → Bool
  | [] => false
  | (first, last) :: rest => first ≤ code && (code ≤ last || inRanges code rest)

end StorageBroker.Text
