import StorageBroker.Credential.Error
import StorageBroker.Json.Decoder
import StorageBroker.Text.Ascii
import StorageBroker.Text.Blank

/-!
# Backends and kinds by name

A backend is recognised without regard to case and surrounding space, a kind only by its exact
name. In JSON texts both go by their exact names.
-/

set_option autoImplicit false

namespace StorageBroker

/-- A backend by its name, in any case and with space around it. -/
def Backend.parse (text : String) : Except CredentialError Backend :=
  let wanted := Text.toLowerAscii (Text.trim text)
  match Backend.all.find? fun backend => backend.name == wanted with
  | some backend => .ok backend
  | none => .error (.unknownBackend wanted)

/-- A backend in a JSON text. -/
def Backend.decode : Json.Decoder Backend :=
  Json.Decoder.enumeration (Backend.all.map fun backend => (backend.name, backend))

/-- A kind by its exact name. -/
def Kind.parse (text : String) : Except CredentialError Kind :=
  match Kind.ofName? text with
  | some kind => .ok kind
  | none => .error (.unknownKind text)

/-- A kind in a JSON text. -/
def Kind.decode : Json.Decoder Kind :=
  Json.Decoder.enumeration (Kind.all.map fun kind => (kind.name, kind))

end StorageBroker
