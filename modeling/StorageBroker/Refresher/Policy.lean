import StorageBroker.Credential.Selection

/-!
# When to refresh and what to keep

An entry holds the last good credential for a resource and the instant from which on it counts as
stale. A token is trusted for a fraction of the lifetime it has left when it was loaded, at least
one millisecond; secret keys and the fallback are stale only at the end of time.

`Policy.settle` says what the outcome of a load means for an entry and for the caller. A malformed
credential is reported as it is. Any other failure is covered by the credential that the entry
holds. An answer without a usable candidate leads to the fallback. A token that has expired
already is handed out but not kept.
-/

set_option autoImplicit false

namespace StorageBroker.Refresher

/-! ## Configuration -/

/-- How a refresher is tuned. -/
structure Config where
  /-- The fraction of a token's lifetime for which it is trusted. -/
  expiryFactor : Binary64
  /-- How many resources are kept, apart from those in use. -/
  capacity : Nat
  /-- The bound on a single load, in milliseconds. -/
  callTimeout : Nat
  deriving DecidableEq

namespace Config

/-- Nine tenths, 1024 resources, ten seconds. -/
def standard : Config := ⟨Binary64.ofRatio false 9 10, 1024, 10000⟩

/-- Whether a fraction lies above zero and at most at one. -/
def isFraction (factor : Binary64) : Bool :=
  (Binary64.ofInt 0).less factor && factor.atMost (Binary64.ofInt 1)

/-- A configuration that can be used. -/
def Valid (config : Config) : Prop :=
  isFraction config.expiryFactor = true ∧ config.capacity ≠ 0 ∧ config.callTimeout ≠ 0

instance (config : Config) : Decidable config.Valid :=
  inferInstanceAs (Decidable (_ ∧ _ ∧ _))

/-- What is wrong with a configuration: the first of a factor out of range, no capacity, and no
time for calls. -/
def fault? (config : Config) : Option CredentialError :=
  if isFraction config.expiryFactor = false then some (.factorOutOfRange config.expiryFactor)
  else if config.capacity = 0 then some .zeroCapacity
  else if config.callTimeout = 0 then some .zeroTimeout
  else none

theorem valid_of_fault?_eq_none {config : Config} (sound : config.fault? = none) :
    config.Valid := by
  unfold fault? at sound
  split at sound
  · simp at sound
  · next factor =>
    split at sound
    · simp at sound
    · next capacity =>
      split at sound
      · simp at sound
      · next timeout => exact ⟨by simpa using factor, capacity, timeout⟩

theorem fault?_eq_none_of_valid {config : Config} (valid : config.Valid) :
    config.fault? = none := by
  obtain ⟨factor, capacity, timeout⟩ := valid
  simp [fault?, factor, capacity, timeout]

end Config

/-! ## Entries -/

/-- How far an entry can be trusted. -/
inductive Freshness where
  | empty
  | fresh
  | stale
  deriving DecidableEq, Repr

/-- A credential and the instant from which on it is stale. -/
structure Holding where
  credential : Credential
  staleFrom : Int64
  deriving DecidableEq

/-- What is kept for a resource. -/
structure Entry where
  holding : Option Holding
  deriving DecidableEq

namespace Entry

/-- Nothing kept. -/
def empty : Entry := ⟨none⟩

/-- The credential of an entry. -/
def credential? (entry : Entry) : Option Credential := entry.holding.map Holding.credential

/-- The instant from which on an entry is stale; zero if it is empty. -/
def staleFrom (entry : Entry) : Int64 :=
  match entry.holding with
  | some holding => holding.staleFrom
  | none => 0

/-- How far an entry can be trusted at an instant. -/
def freshness (entry : Entry) (now : Int64) : Freshness :=
  match entry.holding with
  | none => .empty
  | some holding => if holding.staleFrom ≤ now then .stale else .fresh

/-- The credential of an entry that is fresh. -/
def fresh? (entry : Entry) (now : Int64) : Option Credential :=
  match entry.freshness now with
  | .fresh => entry.credential?
  | .empty | .stale => none

/-- Keeps a credential until an instant. -/
def keep (credential : Credential) (staleFrom : Int64) : Entry := ⟨some ⟨credential, staleFrom⟩⟩

variable {entry : Entry} {now : Int64} {credential : Credential} {holding : Holding}

theorem fresh?_of_holding (holds : entry.holding = some holding) :
    entry.fresh? now = if holding.staleFrom ≤ now then none else some holding.credential := by
  unfold fresh? freshness credential?
  rw [holds]
  by_cases stale : holding.staleFrom ≤ now <;> simp [stale]

/-- What is fresh is what the entry holds. -/
theorem credential?_of_fresh? (fresh : entry.fresh? now = some credential) :
    entry.credential? = some credential := by
  unfold fresh? at fresh
  split at fresh
  · exact fresh
  · cases fresh
  · cases fresh

end Entry

/-! ## Policies -/

instance decidableEqExcept {ε α : Type} [DecidableEq ε] [DecidableEq α] : DecidableEq (Except ε α)
  | .ok left, .ok right => decidable_of_iff (left = right) (by rw [Except.ok.injEq])
  | .error left, .error right => decidable_of_iff (left = right) (by rw [Except.error.injEq])
  | .ok _, .error _ => isFalse (by rintro ⟨⟩)
  | .error _, .ok _ => isFalse (by rintro ⟨⟩)

/-- What a load came to. -/
inductive LoadResult where
  | answered (answer : Except CredentialError (List Credential))
  /-- The load was cut off. -/
  | timedOut
  deriving DecidableEq

/-- What a refresher is set up with. -/
structure Policy where
  backend : Backend
  fallback : Option Credential
  config : Config
  valid : config.Valid
  /-- The fallback belongs to the backend. -/
  fallback_backend : ∀ credential, fallback = some credential → credential.kind.backend = backend

namespace Policy

/-- Sets up a refresher, if the configuration is valid and the fallback belongs to the backend. -/
def create (backend : Backend) (fallback : Option Credential) (config : Config) :
    Except CredentialError Policy :=
  match sound : config.fault? with
  | some fault => .error fault
  | none =>
    match fallback with
    | none => .ok ⟨backend, none, config, Config.valid_of_fault?_eq_none sound, by simp⟩
    | some credential =>
      if same : credential.kind.backend = backend then
        .ok ⟨backend, some credential, config, Config.valid_of_fault?_eq_none sound, by
          rintro other ⟨⟩; exact same⟩
      else .error (.fallbackElsewhere credential.kind backend)

/-- A refresher has what it was set up with. -/
theorem of_create {backend : Backend} {fallback : Option Credential} {config : Config}
    {policy : Policy} (created : create backend fallback config = .ok policy) :
    policy.backend = backend ∧ policy.fallback = fallback ∧ policy.config = config := by
  unfold create at created
  split at created
  · cases created
  · split at created
    · cases created
      exact ⟨rfl, rfl, rfl⟩
    · split at created
      · cases created
        exact ⟨rfl, rfl, rfl⟩
      · cases created

/-- Every policy can be set up. -/
theorem create_self (policy : Policy) :
    create policy.backend policy.fallback policy.config = .ok policy := by
  obtain ⟨backend, fallback, config, valid, belongs⟩ := policy
  have sound := Config.fault?_eq_none_of_valid valid
  unfold create
  split
  · next fault wrong => cases sound.symm.trans wrong
  · cases fallback with
    | none => rfl
    | some credential =>
      dsimp only
      rw [dif_pos (belongs credential rfl)]

/-- The sum, but not beyond the end of the range. -/
def addClamped (left right : Int64) : Int64 := Int64.ofIntClamp (left.toInt + right.toInt)

/-- The instant from which on a token is stale that was loaded at `now` and expires at `expiry`. -/
def staleFrom (policy : Policy) (now expiry : Int64) : Int64 :=
  let remaining := Binary64.ofInt (expiry - now).toInt
  addClamped now (max (remaining.multiply policy.config.expiryFactor).floorToInt64 1)

/-- The answer of a load; one that was cut off counts as an error. -/
def answerOf (policy : Policy) : LoadResult → Except CredentialError (List Credential)
  | .answered answer => answer
  | .timedOut => .error (.timedOut policy.config.callTimeout)

/-- The answer to a caller whose load failed: what the entry holds, whatever its age. -/
def serveStale (resource : String) (entry : Entry) (cause : CredentialError) :
    Except CredentialError Credential :=
  match entry.credential? with
  | some credential => .ok credential
  | none => .error (.loadFailed resource cause)

/-- What a load that ended at `now` means for the caller and for the entry. -/
def settle (policy : Policy) (resource : String) (entry : Entry) (result : LoadResult)
    (now : Int64) : Except CredentialError Credential × Entry :=
  match policy.answerOf result with
  | .error error =>
    if error.isInvalid then (.error error, entry) else (serveStale resource entry error, entry)
  | .ok candidates =>
    match policy.backend.select candidates with
    | none =>
      match policy.fallback with
      | some fallback => (.ok fallback, Entry.keep fallback Int64.maxValue)
      | none => (.error (.nothingSelectable policy.backend resource), entry)
    | some credential =>
      if !credential.isExpiring then (.ok credential, Entry.keep credential Int64.maxValue)
      else if credential.expiryMillis ≤ now then (.ok credential, entry)
      else
        (.ok credential, Entry.keep credential (policy.staleFrom now credential.expiryMillis))

end Policy

end StorageBroker.Refresher
