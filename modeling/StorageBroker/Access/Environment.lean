import StorageBroker.Keyed

/-!
# The environment and the files that configuration comes from

An environment maps names to bytes. A variable is unset if it is not in the environment; a name
that is empty, or holds an equals sign or the null character, is never set. The bytes of a
variable, or of a file, may or may not be UTF-8.
-/

set_option autoImplicit false

namespace StorageBroker

/-- Variables and their bytes. -/
abbrev Environment := Keyed String ByteArray

/-- What a variable reads as. -/
inductive Variable where
  | unset
  | notUnicode
  | value (text : String)
  deriving DecidableEq, Repr

namespace Environment

/-- Whether a variable can have a name. -/
def canBeSet (name : String) : Bool :=
  !name.isEmpty && name.toList.all fun character => character != '=' && character != '\x00'

/-- Reads a variable. -/
def read (environment : Environment) (name : String) : Variable :=
  if canBeSet name then
    match environment.get? name with
    | none => .unset
    | some bytes =>
      match String.fromUTF8? bytes with
      | some text => .value text
      | none => .notUnicode
  else .unset

/-- The text of a variable, if it has one. -/
def text? (environment : Environment) (name : String) : Option String :=
  match environment.read name with
  | .value text => some text
  | .unset | .notUnicode => none

end Environment

/-- Why a file cannot be read as a text. -/
inductive FileFault where
  | notFound
  | notUnicode
  deriving DecidableEq, Repr

/-- The wording of a fault. -/
def FileFault.message : FileFault → String
  | .notFound => "No such file or directory (os error 2)"
  | .notUnicode => "stream did not contain valid UTF-8"

/-- The text of a file of some bytes, if there is one. -/
def fileText (content : Option ByteArray) : Except FileFault String :=
  match content with
  | none => .error .notFound
  | some bytes =>
    match String.fromUTF8? bytes with
    | some text => .ok text
    | none => .error .notUnicode

end StorageBroker
