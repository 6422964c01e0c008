import StorageBroker.Proofs.Access.Outage
import StorageBroker.Proofs.Provider.Requests

/-!
# No more is asked for than was wanted

The request of a session grants what its scope is made of, and its lifetime keeps within the bounds.
Where access was put together from a configuration, without a source from outside, the loads of its
refresher ask for reading at the resource that the caller wanted, and for nothing else
(`requests_grant_the_scope`).
-/

set_option autoImplicit false

namespace StorageBroker

open Refresher

/-- A request for reading at a resource, and for nothing else. -/
structure ReadsOnly (request : TokenRequest) (resource : String) : Prop where
  about : request.resource = resource
  readLocations : request.readLocations = [resource]
  writeLocations : request.writeLocations = []
  user : request.user = none

section Loads

variable {policy : Policy} {past : Past} {state next : State} {step : Step} {resource : String}
  {providers current : List Provider} {request : TokenRequest}

/-- A load is begun by a task that wants a credential for the resource. -/
theorem Refresher.Chronicle.gets_of_loading (record : Chronicle policy past state)
    (taken : state.step policy step = some (next, .loading resource)) :
    ∃ id now, step = .decide id now ∧ Gets id resource past := by
  generalize loads : Event.loading resource = event at taken
  cases change_of_step taken with
  | @move id task _ _ _ _ found move =>
    obtain ⟨start, began, still⟩ := record.exists_beginning found
    generalize task.phase = before at move began
    cases move with
    | load _ =>
      cases loads
      exact ⟨id, _, rfl, start, began, still⟩
    | _ => cases loads
  | _ => cases loads

/-- A session grants no more than reading at a resource in the scope of a source that only reads. -/
theorem Session.readsOnly_request (session : Session) (resource : String) :
    ReadsOnly (session.request (Scope.readOnly resource [resource])) resource :=
  ⟨rfl, rfl, rfl, rfl⟩

/-- Whatever providers there are, a source that only reads asks for nothing but reading at the
resource. -/
theorem ProviderSource.readsOnly_of_asks
    (asks : ({ ProviderSource.readOnly providers with providers := current }.load resource).Asks
      request) : ReadsOnly request resource := by
  obtain ⟨scope, session, granted, -, rfl⟩ := ProviderSource.exists_session_of_asks asks
  cases granted
  exact session.readsOnly_request resource

end Loads

/-- **A token is asked for the scope, and for nothing more.**

* Take a session that accepts properties, and a scope that is made of any locations, in any order and
  with any repetitions, for reading only or for writing too, and perhaps of a user. The session makes no
  request but one, and this one grants what the scope is made of; it names the backend, and the role or
  account in the properties, which is not blank; and its lifetime is the configured one, brought between
  a minute and twelve hours, or an hour if none is configured.
* Take access that was put together from a configuration, without a source from outside, and any run of
  its refresher. A load begins only when a task decides, which got its slot to get a credential for the
  resource of the load; and whatever has become of the providers by then, every request that the load may
  make is for this resource, for reading at this resource alone, for writing nowhere, and for no user. -/
theorem requests_grant_the_scope :
    (∀ (backend : Backend) (properties : Properties) (issuer : Issuer) (session : Session),
      Session.ofProperties backend properties issuer = .ok session →
      ∀ (resource : String) (user : Option String) (write read : List String) (scope : Scope),
        Scope.MadeOf resource user write read scope →
          ∃ request, (∀ other, (session.credential scope).Asks other ↔ other = request) ∧
            Grants request resource user write read ∧ request.writeLocations.Nodup ∧
            request.readLocations.Nodup ∧ request.backend = backend ∧
            properties.get? (Session.identityKey backend) = some request.identity ∧
            Text.isBlank request.identity = false ∧ LifetimeOf properties request.lifetimeSeconds ∧
            60 ≤ request.lifetimeSeconds ∧ request.lifetimeSeconds ≤ 43200) ∧
    (∀ (config : Option AccessConfig) (environment : Environment) (issuer : Option Issuer)
      (assembly : Assembly), Assembly.build config environment issuer false = .ok assembly →
        ∃ source, assembly.providers = some source ∧
          ∀ (past : Past) (state next : State) (step : Step) (resource : String),
            Chronicle assembly.policy past state →
            state.step assembly.policy step = some (next, .loading resource) →
              (∃ id now, step = .decide id now ∧ Gets id resource past) ∧
              ∀ current request, ({ source with providers := current }.load resource).Asks request →
                ReadsOnly request resource) := by
  refine ⟨?_, ?_⟩
  · intro backend properties issuer session accepted resource user write read scope made
    have grants : Grants (session.request scope) resource user write read := Session.grants_request made
    obtain ⟨same, -, identity, -⟩ := Session.ofProperties_eq_ok_iff.1 accepted
    have lifetime := Session.lifetime_of_ofProperties accepted
    exact ⟨session.request scope, fun _ => Session.asks_iff, grants, grants.writeAscending.nodup,
      grants.readAscending.nodup, same, identity, session.identity.filled, lifetime, lifetime.bounds⟩
  · intro config environment issuer assembly built
    obtain ⟨used, properties, fallback, providers, -, parts⟩ := Assembly.build_eq_ok_iff.1 built
    refine ⟨ProviderSource.readOnly providers, parts.source, ?_⟩
    intro past state next step resource record taken
    refine ⟨record.gets_of_loading taken, ?_⟩
    intro current request asks
    exact ProviderSource.readsOnly_of_asks asks

/-- Writing at one location, which is given twice, and reading at two others, on behalf of a user. -/
def sampleWriting : Scope := (Scope.pathBased "r" ["w", "w"] ["y", "x"]).forUser "user"

/-- A token is stored, and when it is stale a second task comes; it has not decided yet. -/
def renewing : List Step := renewed.dropLast

/-- The history of `renewing`, with the state that is reached. -/
def renewingHistory : Past × State :=
  replay (State.step guardedAssembly.policy) State.initial renewing

theorem requests_grant_the_scope_guarded :
    (∃ request, (sampleSession.credential sampleWriting).Asks request ∧
        Grants request "r" (some "user") ["w", "w"] ["y", "x"] ∧
        request.writeLocations = ["w"] ∧ request.readLocations = ["w", "x", "y"]) ∧
      Assembly.build (some guardedConfig) Keyed.empty (some ⟨"issuer"⟩) false = .ok guardedAssembly ∧
      ∃ source next, guardedAssembly.providers = some source ∧
        renewingHistory.2.step guardedAssembly.policy (.decide 2 950) = some (next, .loading "r") ∧
        ∃ request, (source.load "r").Asks request ∧ ReadsOnly request "r" := by
  obtain ⟨grants, confined⟩ := requests_grant_the_scope
  have accepted : Session.ofProperties .s3 guardedProperties ⟨"issuer"⟩ = .ok sampleSession := rfl
  obtain ⟨request, asks, granted, -⟩ := grants _ _ _ _ accepted _ _ _ _ sampleWriting
    (.forUser (.pathBased ["w", "w"] ["y", "x"]) "user")
  have asked : (sampleSession.credential sampleWriting).Asks (sampleSession.request sampleWriting) :=
    .first _ _
  obtain rfl := (asks _).1 asked
  have record : Chronicle guardedAssembly.policy renewingHistory.1 renewingHistory.2 :=
    recorded_replay renewing
  have loads : (renewingHistory.2.step guardedAssembly.policy (.decide 2 950)).map Prod.snd =
      some (.loading "r") := by decide +kernel
  obtain ⟨⟨next, event⟩, taken, rfl⟩ := Option.map_eq_some_iff.1 loads
  obtain ⟨source, same, confines⟩ := confined _ _ _ _ build_guardedConfig
  cases same
  have load : ((ProviderSource.readOnly guardedProviders).load "r").Asks
      (sampleSession.request sampleScope) := .first _ _
  exact ⟨⟨_, asked, granted, by decide +kernel, by decide +kernel⟩, build_guardedConfig, _, next, rfl,
    taken, _, load, (confines _ _ next _ "r" record taken).2 guardedProviders _ load⟩

end StorageBroker
