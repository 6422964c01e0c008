import StorageBroker.Proofs.Provider.Setup
import StorageBroker.Provider.Source

/-!
# What an issuer is asked for

The requests that a dialogue may make are those that it makes whatever the replies are and however far
it gets (`Dialogue.Asks`). A session makes no request but the one for its scope (`Session.asks_iff`), and
that one grants what the scope is made of and nothing more (`Grants`): it is for the resource and the user
of the scope, the locations that may be written are those given for writing, and the locations that may
be read are those given for reading or writing. Its lifetime lies between the shortest and the longest one
(`Session.lifetime_of_ofProperties`).
-/

set_option autoImplicit false

namespace StorageBroker

/-! ## Requests of a dialogue -/

/-- A dialogue may make a request, for some replies of the issuer; it may be cut off then. -/
inductive Dialogue.Asks {α : Type} : Dialogue α → TokenRequest → Prop where
  | first (request : TokenRequest) (next : IssuerAnswer → Dialogue α) : Asks (.ask request next) request
  | later {request other : TokenRequest} {next : IssuerAnswer → Dialogue α} {reply : IssuerAnswer}
      (further : Asks (next reply) other) : Asks (.ask request next) other

section Dialogues

variable {α β : Type} {dialogue : Dialogue α} {next : α → Dialogue β} {request : TokenRequest}
  {scope : Scope} {session : Session} {provider : Provider} {providers : List Provider}
  {collection : Collection} {source : ProviderSource} {resource : String}

theorem Dialogue.Asks.of_bind (asks : (dialogue.bind next).Asks request) :
    dialogue.Asks request ∨ ∃ value, (next value).Asks request := by
  induction dialogue with
  | done value => exact .inr ⟨value, asks⟩
  | ask first continued ih =>
    cases asks with
    | first _ _ => exact .inl (.first _ _)
    | later further =>
      rcases ih _ further with asked | behind
      · exact .inl (.later asked)
      · exact .inr behind

/-- **A session makes no request but the one for its scope.** -/
theorem Session.asks_iff : (session.credential scope).Asks request ↔ request = session.request scope := by
  constructor
  · intro asks
    cases asks with
    | first _ _ => rfl
    | @later _ _ _ reply further => cases reply <;> cases further
  · rintro rfl
    exact .first _ _

/-- Only a session makes a request when it is asked. -/
theorem Provider.exists_session_of_asks (asks : (provider.credential scope).Asks request) :
    ∃ session, provider = .sessionTokens session false ∧ request = session.request scope := by
  cases provider with
  | external _ _ _ | never _ => cases asks
  | secretKeys _ _ closed => cases closed <;> cases asks
  | sessionTokens session closed =>
    cases closed with
    | true => cases asks
    | false => exact ⟨session, rfl, Session.asks_iff.1 asks⟩

/-- What is asked for when providers are asked in turn is asked for by one of them. -/
theorem exists_provider_of_asks
    (asks : (collectFrom (fun provider => Provider.credential provider scope) providers
      collection).Asks request) :
    ∃ provider ∈ providers, (provider.credential scope).Asks request := by
  induction providers generalizing collection with
  | nil => cases asks
  | cons provider providers ih =>
    have others : (∃ other ∈ providers, (other.credential scope).Asks request) →
        ∃ other ∈ provider :: providers, (other.credential scope).Asks request := by
      rintro ⟨other, member, asked⟩
      exact ⟨other, List.mem_cons_of_mem _ member, asked⟩
    rcases asks.of_bind with here | ⟨answer, later⟩
    · exact ⟨provider, List.mem_cons_self, here⟩
    · cases answer with
      | ok candidate => exact others (ih later)
      | error error =>
        dsimp only at later
        split at later
        · cases later
        · split at later
          · exact others (ih later)
          · exact others (ih later)

/-- **Every request of a load is one of a session, for the scope of the load.** -/
theorem ProviderSource.exists_session_of_asks (asks : (source.load resource).Asks request) :
    ∃ scope session, source.scopeOf resource = .ok scope ∧
      .sessionTokens session false ∈ source.providers ∧ request = session.request scope := by
  unfold load at asks
  split at asks
  · cases asks
  · next scope granted =>
    rcases asks.of_bind with collects | ⟨outcome, done⟩
    · obtain ⟨provider, member, asked⟩ := exists_provider_of_asks collects
      obtain ⟨session, rfl, same⟩ := Provider.exists_session_of_asks asked
      exact ⟨scope, session, granted, member, same⟩
    · cases outcome <;> cases done

end Dialogues

/-! ## What a request grants -/

/-- A scope is made of a resource, perhaps a user, the locations given for writing, and those given for
reading. -/
inductive Scope.MadeOf (resource : String) : Option String → List String → List String → Scope → Prop where
  | readOnly (read : List String) : MadeOf resource none [] read (Scope.readOnly resource read)
  | pathBased (write read : List String) :
      MadeOf resource none write read (Scope.pathBased resource write read)
  | forUser {scope : Scope} {before : Option String} {write read : List String}
      (made : MadeOf resource before write read scope) (user : String) :
      MadeOf resource (some user) write read (scope.forUser user)

/-- Texts in strictly ascending order of their characters. -/
def Ascending (items : List String) : Prop := items.Pairwise fun left right => left.toList < right.toList

/-- A request grants what was given, and nothing more. -/
structure Grants (request : TokenRequest) (resource : String) (user : Option String)
    (write read : List String) : Prop where
  resource : request.resource = resource
  user : request.user = user
  writable : ∀ location, location ∈ request.writeLocations ↔ location ∈ write
  readable : ∀ location, location ∈ request.readLocations ↔ location ∈ read ∨ location ∈ write
  writeAscending : Ascending request.writeLocations
  readAscending : Ascending request.readLocations

section Grants

variable {resource : String} {user : Option String} {write read : List String} {scope : Scope}
  {session : Session} {items : List String}

theorem Locations.ascending_items (locations : Locations) : Ascending locations.items :=
  locations.ascending.imp fun below => below

/-- Texts in strictly ascending order are all different. -/
theorem Ascending.nodup (ascending : Ascending items) : items.Nodup := by
  refine ascending.imp fun {left right} below => ?_
  rintro rfl
  exact List.lt_irrefl _ below

theorem Locations.mem_items_union (left right : Locations) (location : String) :
    location ∈ (left.union right).items ↔ location ∈ left.items ∨ location ∈ right.items :=
  mem_items_insertAll left right.items location

/-- **What is asked for in a scope is what the scope is made of.** -/
theorem Session.grants_request (made : Scope.MadeOf resource user write read scope) :
    Grants (session.request scope) resource user write read := by
  have ascends := fun locations : Locations => locations.ascending_items
  induction made with
  | readOnly read =>
    refine ⟨rfl, rfl, fun _ => Iff.rfl, fun location => ?_, ascends _, ascends _⟩
    exact (Locations.mem_items_ofList read location).trans (or_iff_left List.not_mem_nil).symm
  | pathBased write read =>
    refine ⟨rfl, rfl, Locations.mem_items_ofList write, fun location => ?_, ascends _, ascends _⟩
    refine (Locations.mem_items_union _ _ location).trans ?_
    rw [Locations.mem_items_ofList, Locations.mem_items_ofList, or_comm]
  | forUser _ user ih =>
    exact ⟨ih.resource, rfl, ih.writable, ih.readable, ih.writeAscending, ih.readAscending⟩

end Grants

/-! ## What a session adds -/

section Sessions

variable {backend : Backend} {properties : Properties} {issuer : Issuer} {session : Session}

/-- The lifetime that a session asks for is configured, but not shorter than the shortest and not longer
than the longest one; where none is configured, it is an hour. -/
inductive LifetimeOf (properties : Properties) : Nat → Prop where
  | usual (unset : properties.get? Session.lifetimeKey = none) : LifetimeOf properties 3600
  | configured {text : String} {seconds : UInt64}
      (given : properties.get? Session.lifetimeKey = some text)
      (reads : Text.Numeral.unsigned (Text.trim text) = .ok seconds) :
      LifetimeOf properties (min (max seconds.toNat 60) 43200)

theorem LifetimeOf.bounds {seconds : Nat} (lifetime : LifetimeOf properties seconds) :
    60 ≤ seconds ∧ seconds ≤ 43200 := by
  cases lifetime <;> omega

theorem Session.lifetime_of_ofProperties
    (accepted : ofProperties backend properties issuer = .ok session) :
    LifetimeOf properties session.lifetimeSeconds := by
  obtain ⟨-, -, -, read⟩ := ofProperties_eq_ok_iff.1 accepted
  unfold readLifetime at read
  split at read
  · next unset =>
    rw [← Except.ok.inj read]
    exact .usual unset
  · next text given =>
    split at read
    · cases read
    · next seconds reads =>
      rw [← Except.ok.inj read]
      exact .configured given reads

end Sessions

end StorageBroker
