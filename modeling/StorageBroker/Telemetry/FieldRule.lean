import StorageBroker.Telemetry.Pattern.Reader
import StorageBroker.Text.Ascii
import StorageBroker.Text.Pieces

/-!
# Fields that are asked for

A directive may ask for a field of an event, by its name alone or with a value. A value is a number
or a pattern. What a value covers is never asked, as no event has a field with a value; but a text
that is no value spoils the directive in which it stands.
-/

set_option autoImplicit false

namespace StorageBroker.Telemetry

/-! ## Numbers -/

/-- The characters without a sign they begin with. -/
def passSign : List Char → List Char
  | '+' :: rest => rest
  | '-' :: rest => rest
  | characters => characters

/-- Whether a text is a power of ten behind a number, or nothing. -/
def isPower : List Char → Bool
  | [] => true
  | mark :: rest =>
    (mark == 'e' || mark == 'E') && !(passSign rest).isEmpty && (passSign rest).all Char.isDigit

/-- Whether a text is a decimal number without a sign. -/
def isDecimal (text : List Char) : Bool :=
  let whole := text.takeWhile Char.isDigit
  match text.dropWhile Char.isDigit with
  | '.' :: rest =>
    !(whole ++ rest.takeWhile Char.isDigit).isEmpty && isPower (rest.dropWhile Char.isDigit)
  | rest => !whole.isEmpty && isPower rest

/-- Whether a text is a number: a decimal one, an infinity, or what is no number by its name. -/
def isNumber (text : List Char) : Bool :=
  let magnitude := passSign text
  isDecimal magnitude ||
    ["inf", "infinity", "nan"].any fun name =>
      Text.equalsIgnoringCase name (String.ofList magnitude)

/-! ## Rules -/

/-- Whether a text is a value that can be asked for. -/
def isFieldValue (text : List Char) : Bool :=
  isNumber text || (Pattern.read? text).any Pattern.usable

/-- A field that a directive asks for, perhaps with a value. -/
structure FieldRule where
  name : String
  value : Option String
  deriving DecidableEq, Repr

/-- A field from its text: its name, then its value between two equals signs or behind the only one.
The value must be one that can be asked for. -/
def FieldRule.parse (text : List Char) : Option FieldRule :=
  match Text.pieces '=' text with
  | [] => none
  | [name] => some ⟨String.ofList name, none⟩
  | name :: value :: _ =>
    if isFieldValue value then some ⟨String.ofList name, some (String.ofList value)⟩ else none

end StorageBroker.Telemetry
