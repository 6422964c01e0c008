import StorageBroker.Text.Printable
import StorageBroker.Text.Span

/-!
# Quoted texts and labelled records

A quoted text stands between double quotes. The quote and the backslash are escaped by a
backslash; tab, line feed, carriage return and the null character have escapes of one letter;
every other character that is not printable, or that joins the one before it, is written by its
code point in hexadecimal.

A labelled record is the name of a type followed by its fields in braces. It is what the rest of
the library shows of its values in messages meant for people. Values that hold secrets say which
parts of them a record shows, and leave to a layout how these parts are written.
-/

set_option autoImplicit false

namespace StorageBroker.Text

/-! ## Quoting -/

/-- One character as it stands between the quotes. -/
def quoteChar (character : Char) : List Char :=
  if character = '\x00' then ['\\', '0']
  else if character = '\t' then ['\\', 't']
  else if character = '\n' then ['\\', 'n']
  else if character = '\r' then ['\\', 'r']
  else if character = '"' then ['\\', '"']
  else if character = '\\' then ['\\', '\\']
  else if isExtending character || !isPrintable character then
    "\\u\x7b".toList ++ Nat.toDigits 16 character.toNat ++ "\x7d".toList
  else [character]

/-- The text between double quotes, with escapes. -/
def quote (text : String) : String :=
  String.ofList ('"' :: text.toList.flatMap quoteChar ++ ['"'])

/-! ## Records -/

/-- Whether a record shows all its fields or holds some back. -/
inductive Coverage where
  | complete
  | partly
  deriving DecidableEq, Repr

/-- A field as `label: value`. -/
def labelled (field : String × String) : String :=
  field.1 ++ ": " ++ field.2

/-- A record with its name and its shown fields; fields held back are marked by two dots. -/
def record (name : String) (fields : List (String × String)) (coverage : Coverage) : String :=
  let shown := fields.map labelled ++ (if coverage = .partly then [".."] else [])
  name ++ " \x7b " ++ String.intercalate ", " shown ++ " \x7d"

/-- Several values in brackets. -/
def sequence (values : List String) : String :=
  "[" ++ String.intercalate ", " values ++ "]"

/-- What stands in place of a secret. -/
def redaction : String := "[REDACTED]"

/-! ## Layouts -/

/-- How the parts of a record are written. A layout may put every field on a line of its own, for
instance, or write numbers in another base. -/
structure Layout where
  text : String → String
  number : Int → String
  truth : Bool → String
  /-- A span of milliseconds. -/
  span : Nat → String
  /-- A value behind the name of its variant. -/
  variant : String → String → String
  /-- Labelled fields behind the name of their type. -/
  record : String → List (String × String) → Coverage → String

namespace Layout

/-- Everything on one line, with quoted texts and decimal numbers. -/
def oneLine : Layout where
  text := quote
  number := toString
  truth := toString
  span := Text.span
  variant name value := name ++ "(" ++ value ++ ")"
  record := Text.record

/-- An optional value. -/
def optional (layout : Layout) : Option String → String
  | none => "None"
  | some value => layout.variant "Some" value

/-- A secret text. -/
def hidden (layout : Layout) : String := layout.text redaction

end Layout

end StorageBroker.Text
