import StorageBroker.Access.Environment
import StorageBroker.Text.Ascii
import StorageBroker.Text.Blank

/-!
# Configuration of logging

Three variables of the environment say what is logged and how: a full filter, a level that counts
where there is no filter, and the format. A variable that is not a text counts as unset, and a
blank level as the usual one.
-/

set_option autoImplicit false

namespace StorageBroker.Telemetry

/-- How a line of the log is written. -/
inductive Format where
  | human
  | json
  deriving DecidableEq, Repr

/-- The format that a text asks for. -/
def Format.parse (text : String) : Format :=
  if Text.toLowerAscii (Text.trim text) = "json" then .json else .human

/-- The name of a format. -/
def Format.name : Format → String
  | .human => "human"
  | .json => "json"

/-- What is logged, and how. -/
structure Config where
  filter : String
  defaultLevel : String
  format : Format
  deriving DecidableEq, Repr

/-- The level where none is asked for. -/
def usualLevel : String := "info"

/-- The configuration that the environment asks for. -/
def Config.ofEnvironment (environment : Environment) : Config where
  filter := (environment.text? "RUST_LOG").getD ""
  defaultLevel :=
    match environment.text? "LOG_LEVEL" with
    | some level => if Text.isBlank level then usualLevel else level
    | none => usualLevel
  format := Format.parse ((environment.text? "LOG_FORMAT").getD "")

/-- The filter in force: the full one, or the level if that is blank. -/
def Config.directives (config : Config) : String :=
  if Text.isBlank config.filter then config.defaultLevel else config.filter

end StorageBroker.Telemetry
