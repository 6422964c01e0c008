import StorageBroker.Access.Error
import StorageBroker.Json.Decoder
import StorageBroker.Text.Quoted

/-!
# Configured values

A configured value is given as it is, or names a variable of the environment, perhaps with a
default. Values are often secrets, so a record shows the name of the variable only.
-/

set_option autoImplicit false

namespace StorageBroker

/-- A value in a configuration. -/
inductive ConfigValue where
  | literal (text : String)
  | fromEnvironment (name : String) (fallback : Option String)
  deriving DecidableEq

namespace ConfigValue

/-- Whether a value is given as it is. -/
def isLiteral : ConfigValue → Bool
  | .literal _ => true
  | .fromEnvironment _ _ => false

/-- The text of a value, if its variable or its default gives one. -/
def resolveOptional (environment : Environment) : ConfigValue → Except AccessError (Option String)
  | .literal text => .ok (some text)
  | .fromEnvironment name fallback =>
    match environment.read name with
    | .value text => .ok (some text)
    | .unset => .ok fallback
    | .notUnicode => .error (.variableNotUnicode name)

/-- The text of a value. -/
def resolve (environment : Environment) : ConfigValue → Except AccessError String
  | .literal text => .ok text
  | .fromEnvironment name fallback => do
    match ← resolveOptional environment (.fromEnvironment name fallback) with
    | some text => .ok text
    | none => .error (.variableMissing name)

/-- A value as a record in a layout. -/
def inspectIn (layout : Text.Layout) : ConfigValue → String
  | .literal _ => s!"ConfigValue::Literal({Text.redaction})"
  | .fromEnvironment name _ => layout.record "ConfigValue::Env" [("env_var", layout.text name)] .partly

/-- A value as a record. -/
def inspect (value : ConfigValue) : String := value.inspectIn .oneLine

/-! ## JSON -/

/-- A value as a JSON value. A default that is not there is left out. -/
def toJson : ConfigValue → Json.Value
  | .literal text => .string text
  | .fromEnvironment name none => .object [("env_var", .string name)]
  | .fromEnvironment name (some text) =>
    .object [("env_var", .string name), ("default_val", .string text)]

/-- The documents of the members with a name. -/
def membersNamed (name : String) (members : List (Option String × Json.Document)) :
    List Json.Document :=
  (members.filter fun member => member.1 == some name).map Prod.snd

/-- The default among the members of an object. -/
def defaultOf (members : List (Option String × Json.Document)) : Option (Option String) :=
  match membersNamed "default_val" members with
  | [] | [.null] => some none
  | [.string (some text)] => some (some text)
  | _ => none

/-- A value that names a variable, from the members of an object. -/
def ofMembers (members : List (Option String × Json.Document)) : Option ConfigValue :=
  match membersNamed "env_var" members, defaultOf members with
  | [.string (some name)], some fallback => some (.fromEnvironment name fallback)
  | _, _ => none

/-- A value in a JSON text: a string, or an object with the name of a variable. Anything else is
refused, once it turned out to be well formed. -/
def decode : Json.Decoder ConfigValue := fun levels document => do
  let _ ← Json.Decoder.value levels document
  match document with
  | .string (some text) => .ok (.literal text)
  | .object members _ =>
    match ofMembers members with
    | some value => .ok value
    | none => .error (.noVariant "ConfigValue")
  | _ => .error (.noVariant "ConfigValue")

end ConfigValue

end StorageBroker
