/-!
# Places in a text

A place in a text is told by the number of bytes before it, each character counted by its length in
UTF-8. A place within a character counts as the one behind it.
-/

set_option autoImplicit false

namespace StorageBroker.Text

/-- The characters before a place. -/
def takeBytes : Nat → List Char → List Char
  | 0, _ => []
  | _ + 1, [] => []
  | count + 1, character :: rest => character :: takeBytes (count + 1 - character.utf8Size) rest

/-- The characters behind a place. -/
def dropBytes : Nat → List Char → List Char
  | 0, characters => characters
  | _ + 1, [] => []
  | count + 1, character :: rest => dropBytes (count + 1 - character.utf8Size) rest

/-- The characters between two places. -/
def between (first last : Nat) (characters : List Char) : List Char :=
  takeBytes (last - first) (dropBytes first characters)

end StorageBroker.Text
