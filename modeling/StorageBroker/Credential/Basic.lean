import StorageBroker.Credential.Error
import StorageBroker.Text.Blank
import StorageBroker.Text.Quoted

/-!
# Credentials

A credential is secret material for one backend. Its attributes are never blank and the expiry of
a token is positive, by its type: a credential that lacks something does not exist. `ofMaterial`
is the only way to one from unchecked material; it reports the first attribute that is blank, and
then an expiry that is not positive.
-/

set_option autoImplicit false

namespace StorageBroker

/-! ## Checked material -/

/-- A text that is not blank. -/
structure FilledText where
  text : String
  filled : Text.isBlank text = false
  deriving DecidableEq

/-- An instant after 1970, in milliseconds. -/
structure Expiry where
  milliseconds : Int64
  positive : 0 < milliseconds
  deriving DecidableEq

/-- A key and its secret. -/
structure KeyPair where
  accessKeyId : FilledText
  secretAccessKey : FilledText
  deriving DecidableEq

/-- A credential of one of the five kinds. -/
inductive Credential where
  | s3SecretKey (keys : KeyPair)
  | s3Token (keys : KeyPair) (sessionToken : FilledText) (expiry : Expiry)
  | gcsToken (token : FilledText) (expiry : Expiry)
  | ossSecretKey (keys : KeyPair)
  | ossToken (keys : KeyPair) (securityToken : FilledText) (expiry : Expiry)
  deriving DecidableEq

/-- Unchecked material for a credential. A kind uses what it has a place for. -/
structure Material where
  accessKeyId : String
  secretAccessKey : String
  token : String
  expiry : Int64
  deriving DecidableEq, Repr

/-- Requires that an attribute is not blank. -/
def FilledText.check (field : Attribute) (text : String) : Except CredentialError FilledText :=
  match filled : Text.isBlank text with
  | true => .error (.blankAttribute field)
  | false => .ok ⟨text, filled⟩

/-- Requires that the expiry of a token is positive. -/
def Expiry.check (kind : Kind) (milliseconds : Int64) : Except CredentialError Expiry :=
  if positive : 0 < milliseconds then .ok ⟨milliseconds, positive⟩
  else .error (.expiryNotPositive kind)

namespace Credential

/-- A credential of a kind from unchecked material. -/
def ofMaterial (kind : Kind) (material : Material) : Except CredentialError Credential :=
  match kind with
  | .s3SecretKey => do
    let accessKeyId ← FilledText.check .s3AccessKeyId material.accessKeyId
    let secretAccessKey ← FilledText.check .s3SecretAccessKey material.secretAccessKey
    .ok (.s3SecretKey ⟨accessKeyId, secretAccessKey⟩)
  | .s3Token => do
    let accessKeyId ← FilledText.check .s3AccessKeyId material.accessKeyId
    let secretAccessKey ← FilledText.check .s3SecretAccessKey material.secretAccessKey
    let token ← FilledText.check .s3SessionToken material.token
    let expiry ← Expiry.check .s3Token material.expiry
    .ok (.s3Token ⟨accessKeyId, secretAccessKey⟩ token expiry)
  | .gcsToken => do
    let token ← FilledText.check .gcsToken material.token
    let expiry ← Expiry.check .gcsToken material.expiry
    .ok (.gcsToken token expiry)
  | .ossSecretKey => do
    let accessKeyId ← FilledText.check .ossAccessKeyId material.accessKeyId
    let secretAccessKey ← FilledText.check .ossSecretAccessKey material.secretAccessKey
    .ok (.ossSecretKey ⟨accessKeyId, secretAccessKey⟩)
  | .ossToken => do
    let accessKeyId ← FilledText.check .ossAccessKeyId material.accessKeyId
    let secretAccessKey ← FilledText.check .ossSecretAccessKey material.secretAccessKey
    let token ← FilledText.check .ossSecurityToken material.token
    let expiry ← Expiry.check .ossToken material.expiry
    .ok (.ossToken ⟨accessKeyId, secretAccessKey⟩ token expiry)

/-! ## Parts -/

/-- The kind of a credential. -/
def kind : Credential → Kind
  | .s3SecretKey _ => .s3SecretKey
  | .s3Token _ _ _ => .s3Token
  | .gcsToken _ _ => .gcsToken
  | .ossSecretKey _ => .ossSecretKey
  | .ossToken _ _ _ => .ossToken

/-- The instant at which a token expires. -/
def expiry? : Credential → Option Expiry
  | .s3Token _ _ expiry | .gcsToken _ expiry | .ossToken _ _ expiry => some expiry
  | .s3SecretKey _ | .ossSecretKey _ => none

/-- The instant of expiry in milliseconds; zero where there is none. -/
def expiryMillis (credential : Credential) : Int64 :=
  match credential.expiry? with
  | some expiry => expiry.milliseconds
  | none => 0

/-- Whether a credential expires. -/
def isExpiring (credential : Credential) : Bool :=
  decide (0 < credential.expiryMillis)

/-- The tokens are what expires. -/
theorem isExpiring_eq_isToken (credential : Credential) :
    credential.isExpiring = credential.kind.isToken := by
  cases credential with
  | s3SecretKey _ => rfl
  | ossSecretKey _ => rfl
  | s3Token _ _ expiry => exact decide_eq_true expiry.positive
  | gcsToken _ expiry => exact decide_eq_true expiry.positive
  | ossToken _ _ expiry => exact decide_eq_true expiry.positive

/-- The attributes and their values. -/
def attributes : Credential → List (Attribute × String)
  | .s3SecretKey keys =>
    [(.s3AccessKeyId, keys.accessKeyId.text), (.s3SecretAccessKey, keys.secretAccessKey.text)]
  | .s3Token keys token _ =>
    [(.s3AccessKeyId, keys.accessKeyId.text), (.s3SecretAccessKey, keys.secretAccessKey.text),
      (.s3SessionToken, token.text)]
  | .gcsToken token _ => [(.gcsToken, token.text)]
  | .ossSecretKey keys =>
    [(.ossAccessKeyId, keys.accessKeyId.text), (.ossSecretAccessKey, keys.secretAccessKey.text)]
  | .ossToken keys token _ =>
    [(.ossAccessKeyId, keys.accessKeyId.text), (.ossSecretAccessKey, keys.secretAccessKey.text),
      (.ossSecurityToken, token.text)]

/-! ## Showing without the secrets -/

/-- The fields of a key pair. -/
def keyFields (layout : Text.Layout) (keys : KeyPair) : List (String × String) :=
  [("access_key_id", layout.text keys.accessKeyId.text), ("secret_access_key", layout.hidden)]

/-- The field of an expiry. -/
def expiryField (layout : Text.Layout) (expiry : Expiry) : String × String :=
  ("expire_time_ms", layout.number expiry.milliseconds.toInt)

/-- The fields of a credential. Of its attributes only the key id is shown. -/
def fieldsIn (layout : Text.Layout) : Credential → List (String × String)
  | .s3SecretKey keys | .ossSecretKey keys => keyFields layout keys
  | .s3Token keys _ expiry =>
    keyFields layout keys ++ [("session_token", layout.hidden), expiryField layout expiry]
  | .gcsToken _ expiry => [("token", layout.hidden), expiryField layout expiry]
  | .ossToken keys _ expiry =>
    keyFields layout keys ++ [("security_token", layout.hidden), expiryField layout expiry]

/-- A credential as a record in a layout. -/
def inspectIn (layout : Text.Layout) (credential : Credential) : String :=
  layout.variant credential.kind.label
    (layout.record (credential.kind.label ++ "Credential") (credential.fieldsIn layout) .complete)

/-- A credential as a record. -/
def inspect (credential : Credential) : String := credential.inspectIn .oneLine

end Credential

end StorageBroker
