import StorageBroker.Calendar
import StorageBroker.Credential.Basic

/-!
# Credentials for storage clients

The client of a backend wants credentials in a shape of its own: S3 and OSS clients take keys, with
a session token and an expiry if they are for a session; GCS clients take a token. A credential of
another backend is refused, and so is an expiry beyond the calendar. A client is bound to a
resource, and asks any resolver for its credential.

What an instant is, and which expiries are instants, is up to the calendar that is read. Where none is
named it is the one of `CalendarInstant`.
-/

set_option autoImplicit false

namespace StorageBroker

/-! ## Instants -/

/-- An expiry within the calendar. -/
structure CalendarInstant where
  expiry : Expiry
  inRange : expiry.milliseconds.toInt ≤ Calendar.lastInstant
  deriving DecidableEq

namespace CalendarInstant

/-- The milliseconds after 1970. -/
def milliseconds (instant : CalendarInstant) : Int64 := instant.expiry.milliseconds

/-- Reads the instants after 1970. -/
def reading : Calendar.Reading CalendarInstant where
  instant? milliseconds :=
    if within : 0 < milliseconds ∧ milliseconds.toInt ≤ Calendar.lastInstant then
      some ⟨⟨milliseconds, within.1⟩, within.2⟩
    else none
  milliseconds := milliseconds

/-- An instant as records show it. -/
def inspect (instant : CalendarInstant) : String :=
  Calendar.write instant.milliseconds.toInt.toNat

end CalendarInstant

/-- Requires that an expiry is an instant. -/
def Calendar.Reading.ofExpiry {ι : Type} (reading : Calendar.Reading ι) (expiry : Expiry) :
    Except CredentialError ι :=
  match reading.instant? expiry.milliseconds with
  | some instant => .ok instant
  | none => .error (.expiryOutOfRange expiry.milliseconds)

/-! ## What clients take -/

/-- What the client of a backend with access keys takes. -/
structure StorageKeys (ι : Type := CalendarInstant) where
  accessKeyId : String
  secretAccessKey : String
  sessionToken : Option String
  expiresAt : Option ι
  deriving DecidableEq

/-- What the client of a backend with access tokens takes. -/
structure AccessToken (ι : Type := CalendarInstant) where
  token : String
  expiresAt : ι
  deriving DecidableEq

/-- Keys as a record in a layout, with instants written in some way; of the secrets it shows only
whether there is a session token. -/
def StorageKeys.inspectIn {ι : Type} (instant : ι → String) (layout : Text.Layout)
    (keys : StorageKeys ι) : String :=
  layout.record "StorageKeys"
    [("access_key_id", layout.text keys.accessKeyId), ("secret_access_key", layout.hidden),
      ("has_session_token", layout.truth keys.sessionToken.isSome),
      ("expires_at", layout.optional (keys.expiresAt.map instant))] .complete

/-- Keys as a record. -/
def StorageKeys.inspect (keys : StorageKeys) : String :=
  keys.inspectIn CalendarInstant.inspect .oneLine

/-- A token as a record in a layout, with its instant written in some way. -/
def AccessToken.inspectIn {ι : Type} (instant : ι → String) (layout : Text.Layout)
    (token : AccessToken ι) : String :=
  layout.record "GcsAccessToken"
    [("token", layout.hidden), ("expires_at", instant token.expiresAt)] .complete

/-- A token as a record. -/
def AccessToken.inspect (token : AccessToken) : String :=
  token.inspectIn CalendarInstant.inspect .oneLine

/-- What a client takes. -/
inductive ClientCredential (ι : Type := CalendarInstant) where
  | keys (keys : StorageKeys ι)
  | token (token : AccessToken ι)
  deriving DecidableEq

namespace ClientCredential

variable {ι : Type} (reading : Calendar.Reading ι)

/-- Keys that do not expire. -/
def ofKeys (keys : KeyPair) : ClientCredential ι :=
  .keys ⟨keys.accessKeyId.text, keys.secretAccessKey.text, none, none⟩

/-- Keys for a session. -/
def ofSession (keys : KeyPair) (token : FilledText) (expiry : Expiry) :
    Except CredentialError (ClientCredential ι) :=
  (reading.ofExpiry expiry).map fun instant =>
    .keys ⟨keys.accessKeyId.text, keys.secretAccessKey.text, some token.text, some instant⟩

/-- A token with its expiry. -/
def ofToken (token : FilledText) (expiry : Expiry) : Except CredentialError (ClientCredential ι) :=
  (reading.ofExpiry expiry).map fun instant => .token ⟨token.text, instant⟩

/-- What the client of a backend is said to want. -/
def wanted : Backend → String
  | .s3 => "S3"
  | .gcs => "gcs-token"
  | .oss => "OSS"

/-- A credential for the client of a backend. -/
def convert (backend : Backend) (resource : String) (credential : Credential) :
    Except CredentialError (ClientCredential ι) :=
  match backend, credential with
  | .s3, .s3SecretKey pair | .oss, .ossSecretKey pair => .ok (ofKeys pair)
  | .s3, .s3Token pair session expiry | .oss, .ossToken pair session expiry =>
    ofSession reading pair session expiry
  | .gcs, .gcsToken text expiry => ofToken reading text expiry
  | _, _ => .error (.wrongBackend credential.kind resource (wanted backend))

/-- The answer to the client of a backend, given what its resource resolved to. -/
def answer (backend : Backend) (resource : String)
    (resolved : Except CredentialError Credential) :
    Except CredentialError (ClientCredential ι) :=
  resolved.bind (convert reading backend resource)

end ClientCredential

/-! ## Clients -/

/-- Whoever resolves resources to credentials. -/
structure Resolver (m : Type → Type) where
  resolve : String → m (Except CredentialError Credential)
  /-- Forgets what is kept for a resource. -/
  invalidate : String → m Unit

/-- The client of a backend, bound to a resource. -/
structure StorageClient where
  backend : Backend
  resource : String
  deriving DecidableEq, Repr

namespace StorageClient

variable {m : Type → Type} [Monad m] {ι : Type}

/-- What the client takes, with instants of a calendar, fresh from a resolver. -/
def fetchBy (client : StorageClient) (reading : Calendar.Reading ι) (resolver : Resolver m) :
    m (Except CredentialError (ClientCredential ι)) := do
  let resolved ← resolver.resolve client.resource
  pure (ClientCredential.answer reading client.backend client.resource resolved)

/-- What the client takes, fresh from a resolver. -/
def fetch (client : StorageClient) (resolver : Resolver m) :
    m (Except CredentialError ClientCredential) :=
  client.fetchBy CalendarInstant.reading resolver

/-- Has a resolver forget what is kept for the client, as when the store refused it. -/
def discard (client : StorageClient) (resolver : Resolver m) : m Unit :=
  resolver.invalidate client.resource

end StorageClient

end StorageBroker
