import StorageBroker.Proofs.Refresher.Origin
import StorageBroker.Proofs.Refresher.Serial

/-!
# The fallback is kept for ever

Where nothing that was loaded can be used, the caller is given the fallback, and the entry keeps it
until the end of time, whatever its expiry (`Chronicle.holding_of_nothing`). A refresher can be set up
with any fallback of its backend, also with a token. So the fallback is never handed out after its
expiry if and only if it is no token (`fallback_unexpired_iff`).
-/

set_option autoImplicit false

namespace StorageBroker.Refresher

/-! ## Answers with the fallback -/

/-- A load is settled that brought nothing which can be used. -/
def BringsNothing (policy : Policy) (moment : Moment Lane (Option Step) Event) : Prop :=
  ∃ id candidates now, moment.step = some (.settle id (.answered (.ok candidates)) now) ∧
    policy.backend.select candidates = none

/-- A caller is answered with the fallback by a reading of the clock: it is taken where a load brought
nothing that can be used, or it is found in the entry, where such a load has left it. -/
inductive GivesFallback (policy : Policy) (past : Past) (state : State) (credential : Credential)
    (now : Int64) : Prop where
  | taken {id : TaskId} {candidates : List Credential} {next : State}
      (settled : state.step policy (.settle id (.answered (.ok candidates)) now) =
        some (next, .settled (.ok credential)))
      (nothing : policy.backend.select candidates = none)
  | found {id : TaskId} {resource : String} {store : Store} {next : State}
      (served : state.step policy (.decide id now) = some (next, .hit credential))
      (about : state.subject? (.decide id now) = some resource)
      (keeps : kept policy (course resource past) = some store)
      (brought : Occurs (BringsNothing policy) store.stored (course resource past))

/-- In no run a caller is answered with a fallback that has expired by its reading of the clock. -/
def Policy.FallbackUnexpired (policy : Policy) : Prop :=
  ∀ ⦃past state credential now⦄, Chronicle policy past state →
    GivesFallback policy past state credential now →
      ¬ (0 < credential.expiryMillis ∧ credential.expiryMillis ≤ now)

namespace Policy

variable {policy : Policy} {resource : String} {entry : Entry} {candidates : List Credential}
  {now : Int64} {fallback : Credential}

/-- Of no candidates none can be used. -/
theorem select_nil (policy : Policy) : policy.backend.select [] = none := by
  cases policy.backend <;> rfl

/-- Where nothing can be used the fallback is stored, until the end of time. -/
theorem stored?_of_nothing (nothing : policy.backend.select candidates = none) :
    policy.stored? (.answered (.ok candidates)) now =
      policy.fallback.map fun fallback => ⟨fallback, Int64.maxValue⟩ := by
  simp only [stored?, answerOf, nothing]

theorem settle_of_nothing (nothing : policy.backend.select candidates = none)
    (same : policy.fallback = some fallback) :
    policy.settle resource entry (.answered (.ok candidates)) now =
      (.ok fallback, Entry.keep fallback Int64.maxValue) := by
  simp only [settle, answerOf, nothing, same]

end Policy

section Answers

variable {policy : Policy} {past : Past} {state next : State} {id : TaskId} {resource : String}
  {candidates : List Credential} {credential fallback : Credential} {now : Int64} {event : Event}
  {store : Store}

/-- Where nothing that was loaded can be used, the caller is given the fallback. -/
theorem Change.settled_of_nothing
    (change : Change policy state (.settle id (.answered (.ok candidates)) now) event next)
    (nothing : policy.backend.select candidates = none) (same : policy.fallback = some fallback) :
    event = .settled (.ok fallback) := by
  obtain ⟨task, -, -, -, told, -⟩ := change.exists_settlement
  rw [told, Policy.settle_of_nothing nothing same]

/-- What a load has stored that brought nothing is the fallback, until the end of time. -/
theorem Loaded.holding_of_nothing {past : Course} (loaded : Loaded policy resource past store)
    (brought : Occurs (BringsNothing policy) store.stored past)
    (same : policy.fallback = some fallback) : store.holding = ⟨fallback, Int64.maxValue⟩ := by
  obtain ⟨id, reading, result, ended, -, -, settles, stored⟩ := loaded
  obtain ⟨moment, -, settled, loader, candidates, instant, taken, nothing⟩ :=
    (settles.and brought).exists_mem
  cases settled.symm.trans taken
  rw [Policy.stored?_of_nothing nothing, same] at stored
  exact (Option.some.inj stored).symm

/-- As long as the fallback is what is kept for a resource, its entry holds it, until the end of
time. -/
theorem Chronicle.holding_of_nothing (record : Chronicle policy past state)
    (keeps : kept policy (course resource past) = some store)
    (brought : Occurs (BringsNothing policy) store.stored (course resource past))
    (same : policy.fallback = some fallback) :
    (state.lane resource).holding? = some ⟨fallback, Int64.maxValue⟩ := by
  have laneRecord := laneRecorded_course record resource
  have loaded := laneRecord.loaded_of_mem_stores (mem_stores_of_kept keeps)
  rw [← laneRecord.map_holding_kept, keeps, Option.map_some, loaded.holding_of_nothing brought same]

/-- Whoever is answered with the fallback is given what the refresher was set up with. -/
theorem GivesFallback.eq_fallback (gives : GivesFallback policy past state credential now)
    (record : Chronicle policy past state) (same : policy.fallback = some fallback) :
    credential = fallback := by
  cases gives with
  | taken settled nothing =>
    cases (change_of_step settled).settled_of_nothing nothing same
    rfl
  | @found id resource store next served about keeps brought =>
    have laneRecord := laneRecorded_course record resource
    have here := (Sound.of_chronicle record).lane_change (change_of_step served) about
    obtain ⟨phase, other, -, -, keepsToo, given⟩ := laneRecord.exists_kept_of_served here .hit
    cases keeps.symm.trans keepsToo
    have loaded := laneRecord.loaded_of_mem_stores (mem_stores_of_kept keeps)
    rw [← given, loaded.holding_of_nothing brought same]

end Answers

/-! ## Tokens as a fallback -/

section Tokens

variable {policy : Policy} {past : Past} {state : State}

/-- A history goes on with any step, also with one that is not taken. -/
theorem Chronicle.exists_after (record : Chronicle policy past state) (taken : Step) :
    ∃ further, Chronicle policy further (state.after policy taken).1 := by
  rw [State.after]
  cases here : state.step policy taken with
  | none => exact ⟨past, record⟩
  | some reached => exact ⟨_, record.further here⟩

/-- From the start a load can begin by any reading of the clock. -/
theorem exists_loading (policy : Policy) (resource : String) (now : Int64) :
    ∃ past state, Chronicle policy past state ∧
      Solo resource ⟨Entry.empty, false, some 0⟩ .loading state := by
  have quiet : Quiet resource Entry.empty State.initial := .initial
  have start : Chronicle policy [] State.initial := .nothing
  have waits := quiet.beginGet policy
  obtain ⟨-, locked⟩ := waits.goOn policy (.acquire 0) rfl rfl
  obtain ⟨-, swept⟩ := locked.goOn policy (.sweep 0) rfl rfl
  obtain ⟨-, loads⟩ := swept.goOn policy (.decide 0 now) rfl rfl
  obtain ⟨began, record⟩ := start.exists_after (.beginGet 0 resource)
  obtain ⟨acquired, record⟩ := record.exists_after (.acquire 0)
  obtain ⟨cleared, record⟩ := record.exists_after (.sweep 0)
  obtain ⟨decided, record⟩ := record.exists_after (.decide 0 now)
  exact ⟨decided, _, record, loads⟩

/-- A token is handed out as the fallback after its expiry: a load that begins late brings nothing. -/
theorem Policy.not_fallbackUnexpired {fallback : Credential}
    (same : policy.fallback = some fallback) (isToken : fallback.kind.isToken = true) :
    ¬ policy.FallbackUnexpired := by
  intro unexpired
  obtain ⟨past, state, record, loads⟩ := exists_loading policy "r" fallback.expiryMillis
  obtain ⟨number, found, -, -⟩ := loads.holds
  have settles : state.step policy (.settle 0 (.answered (.ok [])) fallback.expiryMillis) = _ :=
    step_of_change (.move found .settle)
  rw [Policy.settle_of_nothing policy.select_nil same] at settles
  rw [← Credential.isExpiring_eq_isToken] at isToken
  exact unexpired record (.taken settles policy.select_nil)
    ⟨of_decide_eq_true isToken, Int64.le_refl _⟩

end Tokens

/-- **A fallback that has expired is handed out just if it is a token.** Take a refresher that was set up
with a fallback. Whoever is answered with the fallback is given what the refresher was set up with; as
long as it is what is kept for a resource, the entry holds it until the end of time; and in all runs
it is handed out unexpired if and only if it is no token. -/
theorem fallback_unexpired_iff {backend : Backend} {fallback : Credential} {config : Config}
    {policy : Policy} (created : Policy.create backend (some fallback) config = .ok policy) :
    (∀ (past : Past) (state : State) (credential : Credential) (now : Int64),
      Chronicle policy past state → GivesFallback policy past state credential now →
        credential = fallback) ∧
    (∀ (past : Past) (state : State) (resource : String) (store : Store),
      Chronicle policy past state → kept policy (course resource past) = some store →
      Occurs (BringsNothing policy) store.stored (course resource past) →
        (state.lane resource).holding? = some ⟨fallback, Int64.maxValue⟩) ∧
    (policy.FallbackUnexpired ↔ fallback.kind.isToken = false) := by
  obtain ⟨-, same, -⟩ := Policy.of_create created
  have given : ∀ (past : Past) (state : State) (credential : Credential) (now : Int64),
      Chronicle policy past state → GivesFallback policy past state credential now →
        credential = fallback := by
    intro past state credential now record gives
    exact gives.eq_fallback record same
  refine ⟨given, ?_, ?_, ?_⟩
  · intro past state resource store record keeps brought
    exact record.holding_of_nothing keeps brought same
  · intro unexpired
    apply Bool.eq_false_iff.2
    intro isToken
    exact Policy.not_fallbackUnexpired same isToken unexpired
  · rintro static past state credential now record gives ⟨expires, -⟩
    rw [given past state credential now record gives] at expires
    rw [← Credential.isExpiring_eq_isToken] at static
    exact of_decide_eq_false static expires

theorem perishableExpiry_pos : (0 : Int64) < 2000 := by decide

/-- A token that expires two seconds after the epoch. -/
def perishableToken : Credential := sampleKeyToken 2000 perishableExpiry_pos

/-- A policy whose fallback is a token. -/
def Policy.perishable : Policy where
  backend := .s3
  fallback := some perishableToken
  config := Config.standard
  valid := Policy.standard.valid
  fallback_backend := by
    rintro credential ⟨⟩
    rfl

theorem fallback_unexpired_iff_key_and_token :
    Policy.create .s3 (some sampleKey) Policy.narrow.config = .ok Policy.narrow ∧
      Policy.narrow.FallbackUnexpired ∧
      Policy.create .s3 (some perishableToken) Config.standard =
        .ok Policy.perishable ∧
      ¬ Policy.perishable.FallbackUnexpired := by
  have key := Policy.create_self Policy.narrow
  have token := Policy.create_self Policy.perishable
  refine ⟨key, (fallback_unexpired_iff key).2.2.2 rfl, token, ?_⟩
  intro unexpired
  cases (fallback_unexpired_iff token).2.2.1 unexpired

/-- A load brings nothing, so the fallback is stored; then another task comes for the resource. -/
def barren : List Step :=
  [.beginGet 1 "r", .acquire 1, .sweep 1, .decide 1 1000, .settle 1 (.answered (.ok [])) 1000,
    .leave 1, .beginGet 2 "r", .acquire 2, .sweep 2]

/-- The history of `barren`, with the state that is reached. -/
def barrenHistory : Past × State := replay (State.step Policy.perishable) State.initial barren

/-- Three seconds after its expiry the fallback is served from the entry. -/
theorem perishable_not_fallbackUnexpired :
    Policy.create .s3 (some perishableToken) Config.standard =
        .ok Policy.perishable ∧
      ¬ Policy.perishable.FallbackUnexpired := by
  refine ⟨Policy.create_self Policy.perishable, ?_⟩
  intro unexpired
  have record : Chronicle Policy.perishable barrenHistory.1 barrenHistory.2 :=
    recorded_replay barren
  have served : (barrenHistory.2.step Policy.perishable (.decide 2 5000)).map Prod.snd =
      some (.hit perishableToken) := by decide +kernel
  obtain ⟨⟨next, event⟩, taken, hit⟩ := Option.map_eq_some_iff.1 served
  cases hit
  have stored : (kept Policy.perishable (course "r" barrenHistory.1)).map Store.stored = some 4 := by
    decide +kernel
  obtain ⟨store, keeps, same⟩ := Option.map_eq_some_iff.1 stored
  have settles : Occurs (fun moment => moment.step =
      some (.settle 1 (.answered (.ok [])) 1000)) 4 (course "r" barrenHistory.1) := by
    decide +kernel
  have brought : Occurs (BringsNothing Policy.perishable) store.stored
      (course "r" barrenHistory.1) := by
    rw [same]
    refine settles.mono fun moment settled => ⟨1, [], 1000, settled, ?_⟩
    exact Policy.perishable.select_nil
  exact unexpired record (.found taken (by decide +kernel) keeps brought)
    ⟨by decide, by decide⟩

end StorageBroker.Refresher
