import StorageBroker.Json.Value

/-!
# Printing JSON values

Values are written without space between their parts. In a string the quote, the backslash and
the control characters below the space are escaped, five of these by a letter and the others by
their number; every other character stands for itself.
-/

set_option autoImplicit false

namespace StorageBroker.Json

/-- Two hexadecimal digits. -/
def hexPair (code : Nat) : List Char :=
  [Nat.digitChar (code / 16), Nat.digitChar (code % 16)]

/-- One character as it stands in a string. -/
def escapeChar (character : Char) : List Char :=
  if character = '"' then ['\\', '"']
  else if character = '\\' then ['\\', '\\']
  else if character = '\x08' then ['\\', 'b']
  else if character = '\x0c' then ['\\', 'f']
  else if character = '\n' then ['\\', 'n']
  else if character = '\r' then ['\\', 'r']
  else if character = '\t' then ['\\', 't']
  else if character.toNat < 0x20 then "\\u00".toList ++ hexPair character.toNat
  else [character]

/-- A string between quotes. -/
def printString (text : String) : List Char :=
  '"' :: text.toList.flatMap escapeChar ++ ['"']

mutual

/-- The characters of a value. -/
def printValue : Value → List Char
  | .null => "null".toList
  | .bool true => "true".toList
  | .bool false => "false".toList
  | .number value => value.write.toList
  | .string text => printString text
  | .array [] => "[]".toList
  | .array (item :: items) => '[' :: printValue item ++ printItems items ++ [']']
  | .object [] => "\x7b\x7d".toList
  | .object ((name, value) :: members) =>
    '\x7b' :: printString name ++ ':' :: printValue value ++ printMembers members ++ ['\x7d']

/-- The items behind the first, each with a comma before it. -/
def printItems : List Value → List Char
  | [] => []
  | item :: items => ',' :: printValue item ++ printItems items

/-- The members behind the first, each with a comma before it. -/
def printMembers : List (String × Value) → List Char
  | [] => []
  | (name, value) :: members =>
    ',' :: printString name ++ ':' :: printValue value ++ printMembers members

end

/-- The text of a value. -/
def Value.print (value : Value) : String := String.ofList (printValue value)

end StorageBroker.Json
