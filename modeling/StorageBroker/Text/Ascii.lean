/-!
# Letters compared without case

Names of backends, table types and log levels are compared without regard to the case of the
letters `A` to `Z`; every other character has one case only.
-/

set_option autoImplicit false

namespace StorageBroker.Text

/-- The text with `A` to `Z` in lower case. -/
def toLowerAscii (text : String) : String :=
  String.ofList (text.toList.map Char.toLower)

/-- Equality up to the case of `A` to `Z`. -/
def equalsIgnoringCase (left right : String) : Bool :=
  left.toList.map Char.toLower == right.toList.map Char.toLower

end StorageBroker.Text
