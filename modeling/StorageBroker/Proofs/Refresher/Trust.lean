import StorageBroker.Proofs.Decimal.Scaling
import StorageBroker.Proofs.Refresher.Origin

/-!
# How long tokens are trusted

A token is trusted for at least a millisecond from when it is stored, and not beyond its expiry
(`Policy.trustedExactly`). So a task that is served from the entry without a load is given no token
that has expired at the instant of its own reading of the clock, wherever the clock went meanwhile
(`no_expired_hit`). The fallback is apart from this, as it is kept for ever.

The readings of the clock are taken not to be negative, and the lifetimes of tokens that are loaded to
have at most 53 bits: with these, nothing overflows.
-/

set_option autoImplicit false

namespace StorageBroker.Refresher

/-! ## The arithmetic -/

/-- Two to the power of 53, in milliseconds. Every integer up to it is a binary64 number, so a
lifetime is converted without loss. -/
def longestLifetime : Int := 9007199254740992

theorem longestLifetime_eq : longestLifetime = 2 * (Binary64.fullPrecision : Int) := rfl

/-- The instant from which on a token is stale lies after the reading of the clock and not after the
expiry; and it is what it should be, without overflow: the lifetime is the exact difference, its
scaled floor is converted as it is, and the sum is the exact sum. -/
structure TrustedExactly (policy : Policy) (now expiry : Int64) : Prop where
  lifetime : (expiry - now).toInt = expiry.toInt - now.toInt
  sum : ∃ floor : Nat, ((Binary64.ofInt (expiry.toInt - now.toInt)).multiply
      policy.config.expiryFactor).floor? = some (floor : Int) ∧
    (policy.staleFrom now expiry).toInt = now.toInt + max (floor : Int) 1
  after : now < policy.staleFrom now expiry
  within : policy.staleFrom now expiry ≤ expiry

theorem toInt_sub_of_nonneg {now expiry : Int64} (nonneg : 0 ≤ now) (later : now < expiry) :
    (expiry - now).toInt = expiry.toInt - now.toInt := by
  rw [Int64.le_iff_toInt_le, Int64.toInt_zero] at nonneg
  rw [Int64.lt_iff_toInt_lt] at later
  have limit := expiry.toInt_lt
  rw [Int64.toInt_sub]
  exact Int.bmod_eq_of_le_mul_two (by omega) (by omega)

theorem toInt_max (left right : Int64) : (max left right).toInt = max left.toInt right.toInt := by
  change (if left ≤ right then right else left).toInt = _
  split
  · next le => rw [Int.max_eq_right (Int64.le_iff_toInt_le.1 le)]
  · next less => rw [Int.max_eq_left (Int.le_of_lt (Int64.lt_iff_toInt_lt.1 (Int64.not_le.1 less)))]

theorem toInt_addClamped {left right : Int64} (lower : 0 ≤ left.toInt + right.toInt)
    (upper : left.toInt + right.toInt ≤ Int64.maxValue.toInt) :
    (Policy.addClamped left right).toInt = left.toInt + right.toInt := by
  refine Int64.toInt_ofIntClamp ?_ upper
  rw [Int64.toInt_minValue]
  omega

/-- **A token is trusted at once, and not beyond its expiry.** -/
theorem Policy.trustedExactly (policy : Policy) {now expiry : Int64} (nonneg : 0 ≤ now)
    (later : now < expiry) (short : expiry.toInt - now.toInt ≤ longestLifetime) :
    TrustedExactly policy now expiry := by
  have lifetime := toInt_sub_of_nonneg nonneg later
  have limit := expiry.toInt_lt
  rw [Int64.le_iff_toInt_le, Int64.toInt_zero] at nonneg
  rw [Int64.lt_iff_toInt_lt] at later
  obtain ⟨fraction, -⟩ := policy.valid
  obtain ⟨positive, atMostOne⟩ := (Bool.and_eq_true _ _).mp fraction
  obtain ⟨value, same⟩ := Int.eq_ofNat_of_zero_le (by omega : 0 ≤ expiry.toInt - now.toInt)
  have limited : value ≤ 2 * Binary64.fullPrecision := by
    rw [longestLifetime_eq] at short
    omega
  obtain ⟨floor, scaled, atMost⟩ := Binary64.exists_floor?_multiply limited positive atMostOne
  have converted := Binary64.toInt_floorToInt64 scaled (Nat.le_trans atMost limited)
  rw [← same] at scaled converted
  have trust : (max ((Binary64.ofInt (expiry.toInt - now.toInt)).multiply
      policy.config.expiryFactor).floorToInt64 1).toInt = max (floor : Int) 1 := by
    rw [toInt_max, converted]
    rfl
  have sum : (policy.staleFrom now expiry).toInt = now.toInt + max (floor : Int) 1 := by
    unfold Policy.staleFrom
    dsimp only
    rw [lifetime, toInt_addClamped]
    · rw [trust]
    · rw [trust]
      omega
    · rw [trust, Int64.toInt_maxValue]
      omega
  refine ⟨lifetime, ⟨floor, scaled, sum⟩, ?_, ?_⟩
  · rw [Int64.lt_iff_toInt_lt, sum]
    omega
  · rw [Int64.le_iff_toInt_le, sum]
    omega

/-! ## Ordinary runs -/

/-- The candidates that a load has brought. -/
def LoadResult.candidates : LoadResult → List Credential
  | .answered (.ok candidates) => candidates
  | .answered (.error _) | .timedOut => []

/-- The readings of the clock are not negative, and what is loaded has a lifetime of at most 53
bits. -/
def Step.Ordinary : Step → Prop
  | .decide _ now | .look _ now => 0 ≤ now
  | .settle _ result now => 0 ≤ now ∧
    ∀ credential ∈ result.candidates, credential.expiryMillis.toInt - now.toInt ≤ longestLifetime
  | .beginGet _ _ | .beginLook _ _ | .acquire _ | .sweep _ | .leave _ | .abandon _
  | .invalidate _ => True

instance : DecidablePred Step.Ordinary
  | .decide _ now | .look _ now => inferInstanceAs (Decidable (0 ≤ now))
  | .settle _ result now => inferInstanceAs (Decidable (0 ≤ now ∧
    ∀ credential ∈ result.candidates, credential.expiryMillis.toInt - now.toInt ≤ longestLifetime))
  | .beginGet _ _ | .beginLook _ _ | .acquire _ | .sweep _ | .leave _ | .abandon _
  | .invalidate _ => inferInstanceAs (Decidable True)

section Ordinary

variable {policy : Policy} {id : TaskId} {candidates : List Credential} {now : Int64}
  {token : Credential} {holding : Holding}

/-- A token that is selected and has not expired is trusted exactly. -/
theorem Step.Ordinary.trustedExactly
    (ordinary : (Step.settle id (.answered (.ok candidates)) now).Ordinary)
    (selects : policy.backend.select candidates = some token) (later : now < token.expiryMillis) :
    TrustedExactly policy now token.expiryMillis := by
  obtain ⟨nonneg, short⟩ := ordinary
  exact policy.trustedExactly nonneg later (short token (Backend.of_select selects).1)

/-- What is stored of the candidates of a load is the selected one, and it is a secret key or is
stale by its expiry. -/
theorem Step.Ordinary.staleFrom_le
    (ordinary : (Step.settle id (.answered (.ok candidates)) now).Ordinary)
    (selects : policy.backend.select candidates = some token)
    (stored : policy.stored? (.answered (.ok candidates)) now = some holding) :
    holding.credential.kind.isToken = false ∨
      holding.staleFrom ≤ holding.credential.expiryMillis := by
  simp only [Policy.stored?, Policy.answerOf, selects] at stored
  split at stored
  · next static =>
    cases stored
    left
    rw [← Credential.isExpiring_eq_isToken]
    simpa using static
  · split at stored
    · cases stored
    · next alive =>
      cases stored
      right
      exact (ordinary.trustedExactly selects (Int64.not_le.1 alive)).within

/-- A token that has not expired is kept. -/
theorem Policy.settle_of_token {resource : String} {entry : Entry}
    (selects : policy.backend.select candidates = some token) (isToken : token.kind.isToken = true)
    (later : now < token.expiryMillis) :
    (policy.settle resource entry (.answered (.ok candidates)) now).2 =
      Entry.keep token (policy.staleFrom now token.expiryMillis) := by
  rw [← Credential.isExpiring_eq_isToken] at isToken
  simp [Policy.settle, Policy.answerOf, selects, isToken, Int64.not_le.2 later]

theorem Entry.freshness_keep {staleFrom : Int64} (early : now < staleFrom) :
    (Entry.keep token staleFrom).freshness now = .fresh := by
  simp [Entry.freshness, Entry.keep, Int64.not_le.2 early]

end Ordinary

/-- A load is settled that brought a candidate of the backend. -/
def BringsCandidate (policy : Policy) (moment : Moment Lane (Option Step) Event) : Prop :=
  ∃ id candidates now, moment.step = some (.settle id (.answered (.ok candidates)) now) ∧
    (policy.backend.select candidates).isSome = true

section Hits

variable {policy : Policy} {past : Past} {id : TaskId} {now : Int64} {resource : String}
  {credential token : Credential} {store : Store}

/-- The credential that a task is served with by a reading of the clock is fresh at this reading. -/
theorem LaneChange.lt_staleFrom_of_hit {lane next : Lane} {holding : Holding}
    (here : LaneChange policy resource lane (some (.decide id now)) (.hit credential) next)
    (holds : lane.holding? = some holding) : now < holding.staleFrom := by
  cases here with
  | move found tracked move =>
    cases move with
    | hit fresh =>
      rw [Lane.holding?_of_slot tracked] at holds
      rw [Entry.fresh?_of_holding holds] at fresh
      split at fresh
      · cases fresh
      · next notStale => exact Int64.not_le.1 notStale

/-- What a load stored of its candidates is a secret key, or it is stale by its expiry. -/
theorem staleFrom_le_of_loaded (ordinary : ∀ moment ∈ past, moment.step.Ordinary)
    (loaded : Loaded policy resource (course resource past) store)
    (brings : Occurs (BringsCandidate policy) store.stored (course resource past)) :
    store.holding.credential.kind.isToken = false ∨
      store.holding.staleFrom ≤ store.holding.credential.expiryMillis := by
  obtain ⟨id, reading, result, now, -, -, settles, stored⟩ := loaded
  obtain ⟨moment, member, settled, loader, candidates, ended, brought, selectable⟩ :=
    (settles.and brings).exists_mem
  cases settled.symm.trans brought
  obtain ⟨token, selects⟩ := Option.isSome_iff_exists.1 selectable
  obtain ⟨original, inside, same, -⟩ := (occurs_of_course settles).exists_mem
  have here := ordinary original inside
  rw [same] at here
  exact here.staleFrom_le selects stored

end Hits

/-- **A task that is served without a load is given no expired token.** In a run whose readings of the
clock are not negative, and in which tokens are loaded with lifetimes of at most 53 bits:

* a token that is loaded before its expiry is stored, is trusted exactly, and is fresh at the reading
  of the clock by which it is stored;
* a task that is served from the entry, by whatever reading of the clock, is given what a load has
  stored; and if this was a candidate of the load, it is a secret key or a token that has not
  expired at this reading. -/
theorem no_expired_hit {policy : Policy} {past : Past} {state : State}
    (record : Chronicle policy past state) (ordinary : ∀ moment ∈ past, moment.step.Ordinary) :
    (∀ (id : TaskId) (candidates : List Credential) (now : Int64) (token : Credential)
      (event : Event) (next : State),
      (Step.settle id (.answered (.ok candidates)) now).Ordinary →
      state.step policy (.settle id (.answered (.ok candidates)) now) = some (next, event) →
      policy.backend.select candidates = some token → token.kind.isToken = true →
      now < token.expiryMillis →
        TrustedExactly policy now token.expiryMillis ∧
        ∃ task, state.tasks.get? id = some task ∧
          (next.slots task.slot).entry =
            Entry.keep token (policy.staleFrom now token.expiryMillis) ∧
          (next.slots task.slot).entry.freshness now = .fresh) ∧
    (∀ (id : TaskId) (now : Int64) (credential : Credential) (next : State) (resource : String),
      state.step policy (.decide id now) = some (next, .hit credential) →
      state.subject? (.decide id now) = some resource →
        ∃ store, kept policy (course resource past) = some store ∧
          (state.lane resource).holding? = some store.holding ∧
          store.holding.credential = credential ∧
          Loaded policy resource (course resource past) store ∧
          (Occurs (BringsCandidate policy) store.stored (course resource past) →
            credential.kind.isToken = false ∨ now < credential.expiryMillis)) := by
  constructor
  · intro id candidates now token event next here taken selects isToken later
    have trusted := here.trustedExactly selects later
    obtain ⟨task, found, -, behind⟩ := (change_of_step taken).exists_settled
    rw [Policy.settle_of_token selects isToken later] at behind
    refine ⟨trusted, task, found, behind, ?_⟩
    rw [behind]
    exact Entry.freshness_keep trusted.after
  · intro id now credential next resource taken about
    have laneRecord := laneRecorded_course record resource
    have sound := Sound.of_chronicle record
    have here := sound.lane_change (change_of_step taken) about
    obtain ⟨phase, store, found, uses, keeps, same⟩ := laneRecord.exists_kept_of_served here .hit
    have loaded := laneRecord.loaded_of_mem_stores (mem_stores_of_kept keeps)
    have holds : (state.lane resource).holding? = some store.holding := by
      rw [← laneRecord.map_holding_kept, keeps, Option.map_some]
    refine ⟨store, keeps, holds, same, loaded, ?_⟩
    intro brings
    have fresh := here.lt_staleFrom_of_hit holds
    rw [← same]
    rcases staleFrom_le_of_loaded ordinary loaded brings with static | bounded
    · exact .inl static
    · exact .inr (Int64.lt_of_lt_of_le fresh bounded)

/-- A token with a lifetime of one millisecond is stored. Then the clock goes back, one task is about to
use the token in its last millisecond, and another one loads for another resource. -/
def brief : List Step :=
  [.beginGet 1 "r", .acquire 1, .sweep 1, .decide 1 99,
    .settle 1 (.answered (.ok [sampleToken 101 (by decide)])) 100, .leave 1,
    .beginGet 1 "r", .acquire 1, .sweep 1, .decide 1 50, .leave 1,
    .beginGet 2 "r", .acquire 2, .sweep 2, .beginGet 3 "s", .acquire 3, .sweep 3, .decide 3 7]

theorem no_expired_hit_brief :
    Chronicle Policy.standard (historyOf brief).1 (historyOf brief).2 ∧
      (∀ moment ∈ (historyOf brief).1, moment.step.Ordinary) ∧
      (∃ next, (historyOf brief).2.step Policy.standard (.decide 2 100) =
          some (next, .hit (sampleToken 101 (by decide))) ∧
        ∃ store, kept Policy.standard (course "r" (historyOf brief).1) = some store ∧
          Occurs (BringsCandidate Policy.standard) store.stored
            (course "r" (historyOf brief).1) ∧
          ((sampleToken 101 (by decide)).kind.isToken = false ∨
            100 < (sampleToken 101 (by decide)).expiryMillis)) ∧
      TrustedExactly Policy.standard 200 (sampleToken 201 (by decide)).expiryMillis := by
  have record := chronicle_historyOf brief
  have ordinary : ∀ moment ∈ (historyOf brief).1, moment.step.Ordinary := by decide +kernel
  have safe := no_expired_hit record ordinary
  have served : ((historyOf brief).2.step Policy.standard (.decide 2 100)).map Prod.snd =
      some (.hit (sampleToken 101 (by decide))) := by decide +kernel
  have settled : ((historyOf brief).2.step Policy.standard
      (.settle 3 (.answered (.ok [sampleToken 201 (by decide)])) 200)).isSome = true := by
    decide +kernel
  obtain ⟨⟨next, event⟩, taken, hit⟩ := Option.map_eq_some_iff.1 served
  obtain ⟨⟨behind, seen⟩, ended⟩ := Option.isSome_iff_exists.1 settled
  cases hit
  obtain ⟨store, keeps, -, -, -, bounded⟩ := safe.2 2 100 _ next "r" taken (by decide +kernel)
  have brings : Occurs (BringsCandidate Policy.standard) store.stored
      (course "r" (historyOf brief).1) := by
    have instant : (kept Policy.standard (course "r" (historyOf brief).1)).map Store.stored =
        some 4 := by decide +kernel
    have settles : Occurs (fun moment => moment.step =
        some (.settle 1 (.answered (.ok [sampleToken 101 (by decide)])) 100)) 4
        (course "r" (historyOf brief).1) := by decide +kernel
    rw [keeps] at instant
    rw [Option.some.inj instant]
    exact settles.mono fun moment same => ⟨1, _, 100, same, rfl⟩
  exact ⟨record, ordinary, ⟨next, taken, store, keeps, brings, bounded brings⟩,
    (safe.1 3 _ 200 _ seen behind (by decide +kernel) ended rfl rfl (by decide)).1⟩

end StorageBroker.Refresher
