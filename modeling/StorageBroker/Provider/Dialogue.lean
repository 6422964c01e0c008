import StorageBroker.Credential.Error
import StorageBroker.Text.Quoted

/-!
# Dialogues with a token issuer

A token issuer stands outside: it is asked for a token and answers with one or with an error. A
computation that may ask is a dialogue: it is done, or it asks for a token and goes on from the
answer. What an issuer does, how long it takes and whether it is there at all is said by whoever
holds the dialogue; the requests of a dialogue are there to be seen.
-/

set_option autoImplicit false

namespace StorageBroker

/-- What an issuer is asked for. -/
structure TokenRequest where
  backend : Backend
  /-- The role or account to act as. -/
  identity : String
  resource : String
  user : Option String
  readLocations : List String
  writeLocations : List String
  /-- How long the token should live. -/
  lifetimeSeconds : Nat
  deriving DecidableEq, Repr

/-- What an issuer hands out. -/
structure IssuedToken where
  accessKeyId : Option String
  secretAccessKey : Option String
  token : String
  expiry : Int64
  deriving DecidableEq, Repr

/-- An issued token as a record in a layout; the secret and the token are held back. -/
def IssuedToken.inspectIn (layout : Text.Layout) (issued : IssuedToken) : String :=
  layout.record "IssuedToken"
    [("access_key_id", layout.optional (issued.accessKeyId.map layout.text)),
      ("expire_time_ms", layout.number issued.expiry.toInt)] .partly

/-- An issued token as a record. -/
def IssuedToken.inspect (issued : IssuedToken) : String := issued.inspectIn .oneLine

/-- What an issuer answers. -/
abbrev IssuerAnswer := Except CredentialError IssuedToken

/-- A computation that may ask an issuer. -/
inductive Dialogue (α : Type) where
  | done (value : α)
  | ask (request : TokenRequest) (next : IssuerAnswer → Dialogue α)

namespace Dialogue

variable {α β : Type}

/-- Goes on from the end of a dialogue. -/
def bind : Dialogue α → (α → Dialogue β) → Dialogue β
  | .done value, next => next value
  | .ask request continued, next => .ask request fun answer => (continued answer).bind next

instance : Monad Dialogue where
  pure := .done
  bind := bind

/-- Asks for one token. -/
def request (request : TokenRequest) : Dialogue IssuerAnswer := .ask request .done

end Dialogue

end StorageBroker
