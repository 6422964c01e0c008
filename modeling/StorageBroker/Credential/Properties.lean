import StorageBroker.Credential.Basic
import StorageBroker.Credential.Naming

/-!
# Credentials as properties

A credential is written as a map: its kind, its expiry in decimal and its attributes, each under a
key of its own. Reading such a map checks the kind first, then, for a token, the expiry, and then
the attributes; keys that do not belong to the kind are passed over, and so is the expiry of a
credential that has none. In JSON a credential is this map.

For a table client the attributes go by other keys, and the expiry is told for one kind only.
-/

set_option autoImplicit false

namespace StorageBroker

/-- Texts under keys. -/
abbrev Properties := Keyed String String

/-- The key of the kind. -/
def kindKey : String := "credential-type"

/-- The key of the expiry. -/
def expiryKey : String := "expire-time-in-ms"

/-- The key of the expiry among the properties of a table client. -/
def clientExpiryKey : String := "gcs.oauth2.token-expires-at"

namespace Credential

/-! ## Writing -/

/-- The attributes under their keys. -/
def info (credential : Credential) : Properties :=
  Keyed.ofList (credential.attributes.map fun field => (field.1.key, field.2))

/-- The whole credential as a map. -/
def toProperties (credential : Credential) : Properties :=
  (credential.info.insert kindKey credential.kind.name).insert expiryKey
    (toString credential.expiryMillis.toInt)

/-- An entry under the key of an attribute, as an entry for a table client. Any other is dropped. -/
def forClient? (entry : String × String) : Option (String × String) :=
  (Attribute.ofKey? entry.1).map fun field => (field.clientKey, entry.2)

/-- The properties of a table client, made of the attributes under their keys in some order. -/
def clientPropertiesFrom (credential : Credential) (attributes : List (String × String)) :
    Properties :=
  let sent := Keyed.ofList (attributes.filterMap forClient?)
  match credential with
  | .gcsToken _ expiry => sent.insert clientExpiryKey (toString expiry.milliseconds.toInt)
  | _ => sent

/-- The properties of a table client. -/
def clientProperties (credential : Credential) : Properties :=
  credential.clientPropertiesFrom credential.info.entries

/-! ## Reading -/

/-- The value of an attribute; empty if there is none. -/
def attributeText (properties : Properties) (field : Attribute) : String :=
  (properties.get? field.key).getD ""

/-- The expiry of a token, with space around its digits. -/
def readExpiry (kind : Kind) (properties : Properties) : Except CredentialError Int64 :=
  match properties.get? expiryKey with
  | none => .error (.missingExpiry kind)
  | some text =>
    match Text.Numeral.signed (Text.trim text) with
    | .ok milliseconds => .ok milliseconds
    | .error fault => .error (.invalidExpiry text fault)

/-- The material for a kind among properties. -/
def readMaterial (kind : Kind) (properties : Properties) (expiry : Int64) : Material :=
  match kind.backend with
  | .s3 => ⟨attributeText properties .s3AccessKeyId, attributeText properties .s3SecretAccessKey,
      attributeText properties .s3SessionToken, expiry⟩
  | .gcs => ⟨"", "", attributeText properties .gcsToken, expiry⟩
  | .oss => ⟨attributeText properties .ossAccessKeyId, attributeText properties .ossSecretAccessKey,
      attributeText properties .ossSecurityToken, expiry⟩

/-- The credential that properties stand for. -/
def ofProperties (properties : Properties) : Except CredentialError Credential := do
  let kind ←
    match properties.get? kindKey with
    | none => .error .missingKind
    | some name => Kind.parse name
  let expiry ← if kind.isToken then readExpiry kind properties else .ok 0
  ofMaterial kind (readMaterial kind properties expiry)

/-- A credential in a JSON text. -/
def decode : Json.Decoder Credential := fun levels document => do
  let properties ← Json.Decoder.map Json.Decoder.string levels document
  match ofProperties properties with
  | .ok credential => .ok credential
  | .error error => .error (.refused error.message)

end Credential

/-- A map of texts as a JSON object. -/
def Properties.toJson (properties : Properties) : Json.Value :=
  .object (properties.entries.map fun entry => (entry.1, .string entry.2))

end StorageBroker
