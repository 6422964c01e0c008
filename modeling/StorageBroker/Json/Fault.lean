import StorageBroker.Json.Value

/-!
# Faults of JSON texts

A text is at fault when its grammar is, or when a value in it is not what its reader wants. The
first fault in the order of the text is the one reported.
-/

set_option autoImplicit false

namespace StorageBroker.Json

/-- What stands where something else was wanted. -/
inductive Found where
  | null
  | bool (value : Bool)
  | number (value : Number)
  | string (value : String)
  | sequence
  | map
  deriving DecidableEq

/-- What was found, in words. -/
def Found.describe : Found → String
  | .null => "null"
  | .bool value => s!"boolean `{value}`"
  | .number (.integer value _) => s!"integer `{value}`"
  | .number (.real value) => "floating point `" ++ Decimal.write .compact value ++ "`"
  | .string value => "string " ++ Text.quote value
  | .sequence => "sequence"
  | .map => "map"

/-- Why a text cannot be read. -/
inductive Fault where
  /-- The text is no JSON, or nests too deeply, or holds a number that is too large. -/
  | malformed
  | missingField (name : String)
  | duplicateField (name : String)
  | invalidType (found : Found) (wanted : String)
  /-- An integer outside the wanted range. -/
  | invalidInteger (value : Int) (wanted : String)
  | unknownVariant (name : String) (known : List String)
  /-- A sequence in place of a record, with too few elements. -/
  | invalidLength (length : Nat) (wanted : String)
  /-- A value of none of the forms that a type allows. -/
  | noVariant (name : String)
  /-- A value that its type refuses for a reason of its own. -/
  | refused (reason : String)
  deriving DecidableEq

/-- The wording of a fault. -/
def Fault.message : Fault → String
  | .malformed => "malformed JSON"
  | .missingField name => s!"missing field `{name}`"
  | .duplicateField name => s!"duplicate field `{name}`"
  | .invalidType found wanted => "invalid type: " ++ found.describe ++ ", expected " ++ wanted
  | .invalidInteger value wanted => s!"invalid value: integer `{value}`, expected {wanted}"
  | .unknownVariant name known =>
    s!"unknown variant `{name}`, expected one of " ++
      String.intercalate ", " (known.map fun variant => s!"`{variant}`")
  | .invalidLength length wanted => s!"invalid length {length}, expected {wanted}"
  | .noVariant name => s!"data did not match any variant of untagged enum {name}"
  | .refused reason => reason

end StorageBroker.Json
