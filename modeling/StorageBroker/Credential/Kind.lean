/-!
# Storage backends and kinds of credentials

A backend vends short-lived tokens of one kind, and some backends have long-lived secret keys
besides. Each of the five kinds belongs to one backend, and holds up to three attributes, each
with a key of its own.
-/

set_option autoImplicit false

namespace StorageBroker

/-- A kind of object store. -/
inductive Backend where
  | s3
  | gcs
  | oss
  deriving DecidableEq, Repr

/-- A kind of credential. -/
inductive Kind where
  | s3SecretKey
  | s3Token
  | gcsToken
  | ossSecretKey
  | ossToken
  deriving DecidableEq, Repr

/-! ## Backends -/

namespace Backend

/-- All backends. -/
def all : List Backend := [.s3, .gcs, .oss]

/-- The name of a backend. -/
def name : Backend → String
  | .s3 => "s3"
  | .gcs => "gcs"
  | .oss => "oss"

/-- A backend in running text. -/
def title : Backend → String
  | .s3 => "S3"
  | .gcs => "GCS"
  | .oss => "OSS"

/-- A backend as records show it. -/
def label : Backend → String
  | .s3 => "S3"
  | .gcs => "Gcs"
  | .oss => "Oss"

/-- The kind of short-lived token that a backend vends. -/
def tokenKind : Backend → Kind
  | .s3 => .s3Token
  | .gcs => .gcsToken
  | .oss => .ossToken

/-- The kind of long-lived key of a backend, if it has one. -/
def secretKeyKind? : Backend → Option Kind
  | .s3 => some .s3SecretKey
  | .gcs => none
  | .oss => some .ossSecretKey

end Backend

/-! ## Kinds -/

namespace Kind

/-- All kinds. -/
def all : List Kind := [.s3SecretKey, .s3Token, .gcsToken, .ossSecretKey, .ossToken]

/-- The name of a kind. -/
def name : Kind → String
  | .s3SecretKey => "s3-secret-key"
  | .s3Token => "s3-token"
  | .gcsToken => "gcs-token"
  | .ossSecretKey => "oss-secret-key"
  | .ossToken => "oss-token"

/-- A kind as records show it. -/
def label : Kind → String
  | .s3SecretKey => "S3SecretKey"
  | .s3Token => "S3Token"
  | .gcsToken => "GcsToken"
  | .ossSecretKey => "OssSecretKey"
  | .ossToken => "OssToken"

/-- The backend that a kind belongs to. -/
def backend : Kind → Backend
  | .s3SecretKey | .s3Token => .s3
  | .gcsToken => .gcs
  | .ossSecretKey | .ossToken => .oss

/-- Whether credentials of a kind expire. -/
def isToken : Kind → Bool
  | .s3Token | .gcsToken | .ossToken => true
  | .s3SecretKey | .ossSecretKey => false

@[simp] theorem backend_tokenKind (backend : Backend) : backend.tokenKind.backend = backend := by
  cases backend <;> rfl

theorem backend_of_secretKeyKind? {backend : Backend} {kind : Kind}
    (has : backend.secretKeyKind? = some kind) : kind.backend = backend := by
  cases backend <;> cases has <;> rfl

/-- A kind by its exact name. -/
def ofName? (text : String) : Option Kind :=
  all.find? fun kind => kind.name == text

end Kind

/-! ## Attributes -/

/-- What a credential consists of, besides its expiry. -/
inductive Attribute where
  | s3AccessKeyId
  | s3SecretAccessKey
  | s3SessionToken
  | gcsToken
  | ossAccessKeyId
  | ossSecretAccessKey
  | ossSecurityToken
  deriving DecidableEq, Repr

namespace Attribute

/-- All attributes. -/
def all : List Attribute :=
  [.s3AccessKeyId, .s3SecretAccessKey, .s3SessionToken, .gcsToken, .ossAccessKeyId,
    .ossSecretAccessKey, .ossSecurityToken]

/-- The key of an attribute among properties. -/
def key : Attribute → String
  | .s3AccessKeyId => "s3-access-key-id"
  | .s3SecretAccessKey => "s3-secret-access-key"
  | .s3SessionToken => "s3-session-token"
  | .gcsToken => "gcs-token"
  | .ossAccessKeyId => "oss-access-key-id"
  | .ossSecretAccessKey => "oss-secret-access-key"
  | .ossSecurityToken => "oss-security-token"

/-- An attribute by its exact key. -/
def ofKey? (key : String) : Option Attribute :=
  all.find? fun field => field.key == key

/-- The key of an attribute among the properties of a table client. -/
def clientKey : Attribute → String
  | .s3AccessKeyId => "s3.access-key-id"
  | .s3SecretAccessKey => "s3.secret-access-key"
  | .s3SessionToken => "s3.session-token"
  | .gcsToken => "gcs.oauth2.token"
  | .ossAccessKeyId => "client.access-key-id"
  | .ossSecretAccessKey => "client.access-key-secret"
  | .ossSecurityToken => "client.security-token"

/-- An attribute in words. -/
def title : Attribute → String
  | .s3AccessKeyId => "S3 access key id"
  | .s3SecretAccessKey => "S3 secret access key"
  | .s3SessionToken => "S3 session token"
  | .gcsToken => "GCS session token"
  | .ossAccessKeyId => "OSS access key id"
  | .ossSecretAccessKey => "OSS secret access key"
  | .ossSecurityToken => "OSS security token"

end Attribute

/-- The attributes of a kind, in the order in which they are checked. -/
def Kind.attributes : Kind → List Attribute
  | .s3SecretKey => [.s3AccessKeyId, .s3SecretAccessKey]
  | .s3Token => [.s3AccessKeyId, .s3SecretAccessKey, .s3SessionToken]
  | .gcsToken => [.gcsToken]
  | .ossSecretKey => [.ossAccessKeyId, .ossSecretAccessKey]
  | .ossToken => [.ossAccessKeyId, .ossSecretAccessKey, .ossSecurityToken]

end StorageBroker
