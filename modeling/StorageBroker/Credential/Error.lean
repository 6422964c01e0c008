import StorageBroker.Credential.Kind
import StorageBroker.Decimal.Shortest
import StorageBroker.Text.Numeral

/-!
# Why no credential can be had

An error names its cause. Errors of the world outside, such as those of a token issuer, are kept
as they were reported. Each error belongs to one of five categories, which decide how it is
treated: a malformed credential is never covered up, an unavailable one is passed over, and all
the rest count as failures of the source.
-/

set_option autoImplicit false

namespace StorageBroker

/-- How an error is treated. -/
inductive CredentialError.Category where
  | config
  | invalidCredential
  | unavailable
  | source
  | timeout
  deriving DecidableEq, Repr

/-- The categories whose errors carry a text when they come from outside. -/
inductive CredentialError.Reported where
  | config
  | invalidCredential
  | unavailable
  | source
  deriving DecidableEq, Repr

/-- Why no credential can be had. -/
inductive CredentialError where
  /-- An error from outside, by its category and its text. -/
  | reported (category : CredentialError.Reported) (text : String)
  /-- A call did not end within the given number of milliseconds. -/
  | timedOut (milliseconds : Nat)
  -- Faults of configuration
  | unknownBackend (name : String)
  | unknownProvider (name : String)
  | providerElsewhere (name : String) (backend : Backend)
  | issuerMissing (name : String)
  | missingProperty (key : String)
  | blankProperty (key : String)
  | invalidLifetime (text : String) (fault : Text.Numeral.Fault)
  | factorOutOfRange (factor : Binary64)
  | zeroCapacity
  | zeroTimeout
  | fallbackElsewhere (kind : Kind) (backend : Backend)
  -- Malformed credentials
  | unknownKind (name : String)
  | missingKind
  | missingExpiry (kind : Kind)
  | invalidExpiry (text : String) (fault : Text.Numeral.Fault)
  | blankAttribute (field : Attribute)
  | expiryNotPositive (kind : Kind)
  | expiryOutOfRange (milliseconds : Int64)
  -- Nothing to be had
  | noProvider (resource : String)
  | secretKeysClosed (backend : Backend) (resource : String)
  | sessionClosed (backend : Backend)
  | nothingSelectable (backend : Backend) (resource : String)
  | loadFailed (resource : String) (cause : CredentialError)
  | wrongBackend (kind : Kind) (resource : String) (wanted : String)
  -- Failures of the source
  | issuerFailed (backend : Backend) (resource : String) (cause : CredentialError)
  | providersFailed (answered total : Nat) (resource : String) (cause : CredentialError)
  deriving DecidableEq

namespace CredentialError

/-- The category of a reported error. -/
def Reported.category : Reported → Category
  | .config => .config
  | .invalidCredential => .invalidCredential
  | .unavailable => .unavailable
  | .source => .source

/-- The category of an error. -/
def category : CredentialError → Category
  | .reported category _ => category.category
  | .timedOut _ => .timeout
  | .unknownBackend _ | .unknownProvider _ | .providerElsewhere _ _ | .issuerMissing _
  | .missingProperty _ | .blankProperty _ | .invalidLifetime _ _ | .factorOutOfRange _
  | .zeroCapacity | .zeroTimeout | .fallbackElsewhere _ _ => .config
  | .unknownKind _ | .missingKind | .missingExpiry _ | .invalidExpiry _ _ | .blankAttribute _
  | .expiryNotPositive _ | .expiryOutOfRange _ => .invalidCredential
  | .noProvider _ | .secretKeysClosed _ _ | .sessionClosed _ | .nothingSelectable _ _
  | .loadFailed _ _ | .wrongBackend _ _ _ => .unavailable
  | .issuerFailed _ _ _ | .providersFailed _ _ _ _ => .source

/-- What the text of an error begins with. -/
def Category.heading : Category → String
  | .config => "Configuration error: "
  | .invalidCredential => "Invalid credential: "
  | .unavailable => "Credential unavailable: "
  | .source => "Credential source error: "
  | .timeout => ""

/-- The text of an error behind its heading, given the whole texts of its causes. -/
def message (error : CredentialError) : String :=
  error.category.heading ++
    match error with
    | .reported _ text => text
    | .timedOut milliseconds => s!"Timed out after {milliseconds} ms"
    | .unknownBackend name => s!"Unknown storage backend '{name}'"
    | .unknownProvider name => s!"Unknown credential provider type '{name}'"
    | .providerElsewhere name backend =>
      s!"Credential provider '{name}' does not serve storage backend '{backend.name}'"
    | .issuerMissing name => s!"Credential provider '{name}' requires a session token issuer"
    | .missingProperty key => s!"Missing required property '{key}'"
    | .blankProperty key => s!"Property '{key}' should not be blank"
    | .invalidLifetime text fault =>
      s!"Invalid 'token-expire-in-secs' value '{text}': {fault.message}"
    | .factorOutOfRange factor =>
      "expiry factor must be in (0, 1], got " ++ Decimal.write .plain factor
    | .zeroCapacity => "cache capacity must be > 0"
    | .zeroTimeout => "call timeout must be > 0"
    | .fallbackElsewhere kind backend =>
      s!"fallback credential kind {kind.name} does not match backend {backend.name}"
    | .unknownKind name => s!"Unknown credential type '{name}'"
    | .missingKind => "Missing 'credential-type'"
    | .missingExpiry kind => s!"Missing 'expire-time-in-ms' for {kind.name}"
    | .invalidExpiry text fault =>
      s!"Invalid 'expire-time-in-ms' value '{text}': {fault.message}"
    | .blankAttribute field => s!"{field.title} should not be empty"
    | .expiryNotPositive kind => s!"The expire time of {kind.name} should be greater than 0"
    | .expiryOutOfRange milliseconds => s!"expiry {milliseconds.toInt} ms is out of range"
    | .noProvider resource => s!"No credential provider configured for '{resource}'"
    | .secretKeysClosed backend resource =>
      s!"{backend.title} secret key provider is closed (resource '{resource}')"
    | .sessionClosed backend => s!"{backend.name} session token provider is closed"
    | .nothingSelectable backend resource =>
      s!"No {backend.name} credential available for '{resource}'"
    | .loadFailed resource cause =>
      s!"Failed to load credential for '{resource}': {cause.message}"
    | .wrongBackend kind resource wanted =>
      s!"Resolved {kind.name} credential for '{resource}', but a {wanted} credential is required"
    | .issuerFailed backend resource cause =>
      s!"Failed to issue {backend.name} token for '{resource}': {cause.message}"
    | .providersFailed answered total resource cause =>
      s!"{answered} of {total} credential providers answered for '{resource}', first failure: " ++
        cause.message

/-- Whether an error is about a malformed credential. -/
def isInvalid (error : CredentialError) : Bool :=
  error.category == .invalidCredential

/-- Whether an error says that there is nothing to be had. -/
def isUnavailable (error : CredentialError) : Bool :=
  error.category == .unavailable

end CredentialError

end StorageBroker
