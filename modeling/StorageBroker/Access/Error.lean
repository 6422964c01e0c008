import StorageBroker.Access.Environment
import StorageBroker.Credential.Error
import StorageBroker.Table.Error

/-!
# Why access cannot be set up or given

Faults of configuration have a cause of their own; faults of credentials and of tables are passed
on.
-/

set_option autoImplicit false

namespace StorageBroker

/-- What is wrong with access. -/
inductive AccessError where
  | noConfiguration
  | zeroTableCapacity
  | unknownProvider (name : String)
  | providerElsewhere (name : String) (backend : Backend)
  | variableMissing (name : String)
  | variableNotUnicode (name : String)
  | unresolvedProperty (key : String) (cause : AccessError)
  | unreadableFile (path : String) (fault : FileFault)
  | unreadable (fault : Json.Fault)
  | credential (error : CredentialError)
  | table (error : TableError)
  deriving DecidableEq

namespace AccessError

/-- The text of an error. -/
def message : AccessError → String
  | .noConfiguration => "Configuration error: no access configuration given"
  | .zeroTableCapacity => "Configuration error: metadata-cache-capacity must be > 0"
  | .unknownProvider name => s!"Configuration error: Unknown credential provider '{name}'"
  | .providerElsewhere name backend =>
    s!"Configuration error: Credential provider '{name}' does not serve storage backend " ++
      s!"'{backend.name}'"
  | .variableMissing name =>
    s!"Configuration error: Environment variable '{name}' not set and no default provided"
  | .variableNotUnicode name =>
    s!"Configuration error: Environment variable '{name}' is not valid unicode"
  | .unresolvedProperty key cause =>
    s!"Configuration error: Property '{key}': {cause.message}"
  | .unreadableFile path fault =>
    s!"Configuration error: Failed to read '{path}': {fault.message}"
  | .unreadable fault => s!"Invalid configuration JSON: {fault.message}"
  | .credential error => error.message
  | .table error => error.message

/-- Whether an error says that there is no usable credential. -/
def isCredentialUnavailable : AccessError → Bool
  | .credential error => error.isUnavailable
  | _ => false

end AccessError

end StorageBroker
