import StorageBroker.Provider.Basic

/-!
# Collecting candidates

A source asks its providers in turn. One that has nothing is passed over. One that fails is passed
over too, but its failure is remembered: unless some token came in, the first failure becomes the
answer, so that an outage never leaves secret keys, which do not expire, as the only candidates. A
malformed credential ends the collection at once.

Collecting and closing are written for any way of asking and closing, so that their order can be
observed.
-/

set_option autoImplicit false

namespace StorageBroker

/-- What was collected: the candidates in order, and the first failure. -/
structure Collection where
  candidates : List Credential
  failure : Option CredentialError

namespace Collection

/-- Nothing collected yet. -/
def empty : Collection := ⟨[], none⟩

/-- With one more candidate. -/
def add (collection : Collection) (candidate : Credential) : Collection :=
  { collection with candidates := collection.candidates ++ [candidate] }

/-- With a failure, unless there was one before. -/
def fail (collection : Collection) (error : CredentialError) : Collection :=
  { collection with failure := some (collection.failure.getD error) }

/-- What the collection from a number of providers amounts to. -/
def verdict (collection : Collection) (providers : Nat) (resource : String) :
    Except CredentialError (List Credential) :=
  match collection.failure with
  | none => .ok collection.candidates
  | some failure =>
    if collection.candidates.any fun candidate => candidate.kind.isToken then
      .ok collection.candidates
    else .error (.providersFailed collection.candidates.length providers resource failure)

end Collection

section

variable {m : Type → Type} [Monad m] {ι : Type}

/-- Asks each provider in turn, up to the first malformed credential. -/
def collectFrom (ask : ι → m (Except CredentialError Credential)) :
    List ι → Collection → m (Except CredentialError Collection)
  | [], collection => pure (.ok collection)
  | provider :: rest, collection => do
    match ← ask provider with
    | .ok candidate => collectFrom ask rest (collection.add candidate)
    | .error error =>
      if error.isInvalid then pure (.error error)
      else if error.isUnavailable then collectFrom ask rest collection
      else collectFrom ask rest (collection.fail error)

/-- The candidates of several providers for a resource. -/
def collectCandidates (ask : ι → m (Except CredentialError Credential)) (resource : String)
    (providers : List ι) : m (Except CredentialError (List Credential)) := do
  match ← collectFrom ask providers Collection.empty with
  | .ok collection => pure (collection.verdict providers.length resource)
  | .error error => pure (.error error)

/-- Closes each provider in turn, also behind one that fails. The first failure is the answer. -/
def closeEach (close : ι → m (Except CredentialError Unit)) :
    List ι → m (Except CredentialError Unit)
  | [] => pure (.ok ())
  | provider :: rest => do
    let first ← close provider
    let others ← closeEach close rest
    match first with
    | .error error => pure (.error error)
    | .ok () => pure others

end

/-- Several providers, and the scope in which they are asked for a resource. -/
structure ProviderSource where
  providers : List Provider
  scopeOf : String → Except CredentialError Scope

namespace ProviderSource

/-- A source that asks for reading at the resource itself. -/
def readOnly (providers : List Provider) : ProviderSource :=
  ⟨providers, fun resource => .ok (Scope.readOnly resource [resource])⟩

/-- The candidates for a resource. Without a scope no provider is asked. -/
def load (source : ProviderSource) (resource : String) :
    Dialogue (Except CredentialError (List Credential)) :=
  match source.scopeOf resource with
  | .error error => .done (.error error)
  | .ok scope =>
    collectCandidates (fun provider => Provider.credential provider scope) resource
      source.providers

/-- The source after all its providers were closed. -/
def closed (source : ProviderSource) : ProviderSource :=
  { source with providers := source.providers.map Provider.closed }

/-- What closing all providers answers: the first failure, if there is one. -/
def closing (source : ProviderSource) : Except CredentialError Unit :=
  Id.run (closeEach (fun provider => pure (Provider.closing provider)) source.providers)

/-- A source as a record of its providers. -/
def inspect (source : ProviderSource) : String :=
  Text.record "ProviderCredentialSource"
    [("providers", Text.sequence (source.providers.map Provider.inspect))] .partly

end ProviderSource

end StorageBroker
