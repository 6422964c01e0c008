import StorageBroker.Credential.Properties
import StorageBroker.Provider.Dialogue
import StorageBroker.Provider.Scope
import StorageBroker.Text.Span

/-!
# Providers of credentials

A provider produces one credential for a scope. There are providers that hand out secret keys from
their configuration, providers that have an issuer mint short-lived tokens, the provider that
never has anything, and those supplied from outside, of which only what they answer is known. No
provider keeps what it handed out. Once closed, a provider of the first two sorts answers that it
is closed, and asks no issuer any more.
-/

set_option autoImplicit false

namespace StorageBroker

/-- A property that must be there and must not be blank. -/
def requiredProperty (properties : Properties) (key : String) :
    Except CredentialError FilledText :=
  match properties.get? key with
  | none => .error (.missingProperty key)
  | some text =>
    match filled : Text.isBlank text with
    | true => .error (.blankProperty key)
    | false => .ok ⟨text, filled⟩

/-! ## Secret keys -/

/-- The backends with secret keys. -/
inductive KeyStore where
  | s3
  | oss
  deriving DecidableEq, Repr

namespace KeyStore

/-- The backend whose keys these are. -/
def backend : KeyStore → Backend
  | .s3 => .s3
  | .oss => .oss

/-- The attribute of the key id. -/
def accessKeyId : KeyStore → Attribute
  | .s3 => .s3AccessKeyId
  | .oss => .ossAccessKeyId

/-- The attribute of the secret. -/
def secretAccessKey : KeyStore → Attribute
  | .s3 => .s3SecretAccessKey
  | .oss => .ossSecretAccessKey

/-- The kind of the keys. -/
def kind : KeyStore → Kind
  | .s3 => .s3SecretKey
  | .oss => .ossSecretKey

/-- The keys as a credential. -/
def credential : KeyStore → KeyPair → Credential
  | .s3, keys => .s3SecretKey keys
  | .oss, keys => .ossSecretKey keys

/-- The keys of unchecked texts. -/
def check (store : KeyStore) (accessKeyId secretAccessKey : String) :
    Except CredentialError KeyPair := do
  let accessKeyId ← FilledText.check store.accessKeyId accessKeyId
  let secretAccessKey ← FilledText.check store.secretAccessKey secretAccessKey
  .ok ⟨accessKeyId, secretAccessKey⟩

/-- The keys among properties, both required. -/
def readKeys (store : KeyStore) (properties : Properties) : Except CredentialError KeyPair := do
  let accessKeyId ← requiredProperty properties store.accessKeyId.key
  let secretAccessKey ← requiredProperty properties store.secretAccessKey.key
  store.check accessKeyId.text secretAccessKey.text

/-- The texts of the keys among properties: nothing if neither is given, both required if one is. -/
def readPair? (store : KeyStore) (properties : Properties) :
    Except CredentialError (Option (FilledText × FilledText)) :=
  if !properties.contains store.accessKeyId.key && !properties.contains store.secretAccessKey.key
  then .ok none
  else do
    let accessKeyId ← requiredProperty properties store.accessKeyId.key
    let secretAccessKey ← requiredProperty properties store.secretAccessKey.key
    .ok (some (accessKeyId, secretAccessKey))

/-- What a provider of these keys is called in a record. -/
def providerName : KeyStore → String
  | .s3 => "S3SecretKeyProvider"
  | .oss => "OssSecretKeyProvider"

end KeyStore

/-- The secret keys of a backend, if it has any. -/
def Backend.keyStore? : Backend → Option KeyStore
  | .s3 => some .s3
  | .gcs => none
  | .oss => some .oss

/-- The secret keys of a backend as a credential: nothing if neither key is given, and a fault if
only one is, or one is blank. -/
def staticFallback (backend : Backend) (properties : Properties) :
    Except CredentialError (Option Credential) :=
  match backend.keyStore? with
  | none => .ok none
  | some store => do
    match ← store.readPair? properties with
    | none => .ok none
    | some (accessKeyId, secretAccessKey) =>
      (store.check accessKeyId.text secretAccessKey.text).map fun keys =>
        some (store.credential keys)

/-! ## Session tokens -/

/-- A token issuer, by the name under which records show it. -/
structure Issuer where
  label : String
  deriving DecidableEq, Repr

/-- What a provider of session tokens is set up with. -/
structure Session where
  backend : Backend
  identity : FilledText
  lifetimeSeconds : Nat
  issuer : Issuer
  deriving DecidableEq

namespace Session

/-- The key of the wanted lifetime, in seconds. -/
def lifetimeKey : String := "token-expire-in-secs"

/-- The lifetime asked for where none is configured: an hour. -/
def defaultLifetime : Nat := 3600

/-- The shortest lifetime that is asked for: a minute. -/
def shortestLifetime : Nat := 60

/-- The longest lifetime that is asked for: twelve hours. -/
def longestLifetime : Nat := 43200

/-- The key of the role or account to act as. -/
def identityKey : Backend → String
  | .s3 => "s3-role-arn"
  | .gcs => "gcs-service-account"
  | .oss => "oss-role-arn"

/-- The configured lifetime, brought between the shortest and the longest one. -/
def readLifetime (properties : Properties) : Except CredentialError Nat :=
  match properties.get? lifetimeKey with
  | none => .ok defaultLifetime
  | some text =>
    match Text.Numeral.unsigned (Text.trim text) with
    | .error fault => .error (.invalidLifetime text fault)
    | .ok seconds => .ok (min (max seconds.toNat shortestLifetime) longestLifetime)

/-- A session from properties. -/
def ofProperties (backend : Backend) (properties : Properties) (issuer : Issuer) :
    Except CredentialError Session := do
  let identity ← requiredProperty properties (identityKey backend)
  let lifetime ← readLifetime properties
  .ok ⟨backend, identity, lifetime, issuer⟩

/-- The request for a scope. -/
def request (session : Session) (scope : Scope) : TokenRequest where
  backend := session.backend
  identity := session.identity.text
  resource := scope.resource
  user := scope.user
  readLocations := scope.readLocations.items
  writeLocations := scope.writeLocations.items
  lifetimeSeconds := session.lifetimeSeconds

/-- The credential of an issued token. What the issuer left out counts as empty. -/
def toCredential (session : Session) (issued : IssuedToken) : Except CredentialError Credential :=
  Credential.ofMaterial session.backend.tokenKind
    ⟨issued.accessKeyId.getD "", issued.secretAccessKey.getD "", issued.token, issued.expiry⟩

/-- What an issuer's error counts as: one about a malformed credential, or that nothing is to be
had, stays as it is, and any other is a failure of the source. -/
def relay (session : Session) (resource : String) (error : CredentialError) : CredentialError :=
  if error.isInvalid || error.isUnavailable then error
  else .issuerFailed session.backend resource error

/-- Asks for a token. -/
def credential (session : Session) (scope : Scope) :
    Dialogue (Except CredentialError Credential) :=
  .ask (session.request scope) fun
    | .error error => .done (.error (session.relay scope.resource error))
    | .ok issued => .done (session.toCredential issued)

end Session

/-! ## Providers -/

/-- A provider of credentials. -/
inductive Provider where
  | secretKeys (store : KeyStore) (keys : KeyPair) (closed : Bool)
  | sessionTokens (session : Session) (closed : Bool)
  | never (backend : Backend)
  /-- A provider from outside: its kind, what it answers, and what closing it answers. -/
  | external (kind : Kind) (answer : Except CredentialError Credential)
    (closing : Except CredentialError Unit)

namespace Provider

/-- The name of the provider that never has anything. -/
def neverName : String := "none"

/-- The kind of credential that a provider produces. -/
def kind : Provider → Kind
  | .secretKeys store _ _ => store.kind
  | .sessionTokens session _ => session.backend.tokenKind
  | .never backend => backend.tokenKind
  | .external kind _ _ => kind

/-- Produces a credential. -/
def credential (provider : Provider) (scope : Scope) :
    Dialogue (Except CredentialError Credential) :=
  match provider with
  | .secretKeys store keys closed =>
    if closed then .done (.error (.secretKeysClosed store.backend scope.resource))
    else .done (.ok (store.credential keys))
  | .sessionTokens session closed =>
    if closed then .done (.error (.sessionClosed session.backend))
    else session.credential scope
  | .never _ => .done (.error (.noProvider scope.resource))
  | .external _ answer _ => .done answer

/-- A provider after it was closed. -/
def closed : Provider → Provider
  | .secretKeys store keys _ => .secretKeys store keys true
  | .sessionTokens session _ => .sessionTokens session true
  | .never backend => .never backend
  | .external kind answer closing => .external kind answer closing

/-- What closing a provider answers. -/
def closing : Provider → Except CredentialError Unit
  | .external _ _ closing => closing
  | _ => .ok ()

/-- A provider of secret keys from properties. -/
def ofKeyStore (store : KeyStore) (properties : Properties) : Except CredentialError Provider :=
  (store.readKeys properties).map fun keys => .secretKeys store keys false

/-- A provider of session tokens from properties. -/
def ofSession (backend : Backend) (properties : Properties) (issuer : Issuer) :
    Except CredentialError Provider :=
  (Session.ofProperties backend properties issuer).map fun session => .sessionTokens session false

/-- A provider for a backend by the name of its type, which is the name of a kind, or of the
provider that never has anything. Tokens need an issuer. -/
def create (backend : Backend) (name : String) (properties : Properties)
    (issuer : Option Issuer) : Except CredentialError Provider :=
  if name = neverName then .ok (.never backend)
  else
    match Kind.ofName? name with
    | none => .error (.unknownProvider name)
    | some kind =>
      if kind.backend ≠ backend then .error (.providerElsewhere name backend)
      else
        match kind with
        | .s3SecretKey => ofKeyStore .s3 properties
        | .ossSecretKey => ofKeyStore .oss properties
        | .s3Token | .gcsToken | .ossToken =>
          match issuer with
          | none => .error (.issuerMissing name)
          | some issuer => ofSession backend properties issuer

/-- A provider as a record in a layout. Of its keys only the id is shown. -/
def inspectIn (layout : Text.Layout) : Provider → String
  | .secretKeys store keys closed =>
    layout.record store.providerName
      [("access_key_id", layout.text keys.accessKeyId.text), ("closed", layout.truth closed)] .complete
  | .sessionTokens session closed =>
    layout.record "SessionTokenProvider"
      [("backend", session.backend.label), ("identity", layout.text session.identity.text),
        ("ttl", layout.span (session.lifetimeSeconds * 1000)), ("issuer", session.issuer.label),
        ("closed", layout.truth closed)] .complete
  | .never backend => layout.record "NoCredentialProvider" [("backend", backend.label)] .complete
  | .external _ _ _ => "Provider"

/-- A provider as a record. -/
def inspect (provider : Provider) : String := provider.inspectIn .oneLine

end Provider

end StorageBroker
