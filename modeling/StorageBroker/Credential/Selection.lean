import StorageBroker.Credential.Basic

/-!
# Selecting among candidates

Of the candidates for a backend the first token is taken, and if there is none the first secret
key. Candidates of other backends do not count.
-/

set_option autoImplicit false

namespace StorageBroker

/-- The first candidate of a kind. -/
def Credential.firstOf (kind : Kind) (candidates : List Credential) : Option Credential :=
  candidates.find? fun candidate => candidate.kind == kind

/-- The candidate to use for a backend. -/
def Backend.select (backend : Backend) (candidates : List Credential) : Option Credential :=
  match Credential.firstOf backend.tokenKind candidates with
  | some token => some token
  | none => backend.secretKeyKind?.bind fun kind => Credential.firstOf kind candidates

theorem Credential.of_firstOf {kind : Kind} {candidates : List Credential}
    {credential : Credential} (first : firstOf kind candidates = some credential) :
    credential ∈ candidates ∧ credential.kind = kind := by
  unfold firstOf at first
  exact ⟨List.mem_of_find?_eq_some first, by simpa using List.find?_some first⟩

/-- What is selected is a candidate, and it belongs to the backend. -/
theorem Backend.of_select {backend : Backend} {candidates : List Credential}
    {credential : Credential} (selected : backend.select candidates = some credential) :
    credential ∈ candidates ∧ credential.kind.backend = backend := by
  unfold select at selected
  split at selected
  · next token found =>
    cases selected
    obtain ⟨member, kind⟩ := Credential.of_firstOf found
    exact ⟨member, by rw [kind, Kind.backend_tokenKind]⟩
  · obtain ⟨kind, has, found⟩ := Option.bind_eq_some_iff.1 selected
    obtain ⟨member, same⟩ := Credential.of_firstOf found
    exact ⟨member, by rw [same, Kind.backend_of_secretKeyKind? has]⟩

end StorageBroker
