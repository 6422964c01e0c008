import StorageBroker.Proofs.Refresher.Settlement

/-!
# Loads that store nothing

A load stores nothing in three cases: it failed or was cut off, it brought nothing that can be used
while there is no fallback, or it brought a token that had expired by then
(`Policy.storesNothing_iff`). Such a load leaves the entry as it was, and so does one whose caller is
gone; what the caller is told depends on the case and on the entry (`UnstoredAnswer`). Hence a caller
is never told an error but that a credential is malformed or that none is to be had, and one whose
load failed is given what the last load that stored anything has stored
(`unstored_load_changes_nothing`).
-/

set_option autoImplicit false

namespace StorageBroker.Refresher

/-! ## When nothing is stored -/

/-- A load that stores nothing. -/
inductive Policy.StoresNothing (policy : Policy) (result : LoadResult) (now : Int64) : Prop where
  | failed {error : CredentialError} (answer : policy.answerOf result = .error error)
  | unusable {candidates : List Credential} (answered : result = .answered (.ok candidates))
      (nothing : policy.backend.select candidates = none) (bare : policy.fallback = none)
  | expired {candidates : List Credential} {token : Credential}
      (answered : result = .answered (.ok candidates))
      (selects : policy.backend.select candidates = some token)
      (isToken : token.kind.isToken = true) (lapsed : token.expiryMillis ≤ now)

/-- What the caller of a load that stores nothing is told, by what the load came to and by what the
entry holds. -/
structure UnstoredAnswer (policy : Policy) (resource : String) (entry : Entry) (result : LoadResult)
    (answer : Except CredentialError Credential) : Prop where
  /-- That a credential is malformed is told if and only if the load failed with this error. -/
  malformed : ∀ error, answer = .error error ∧ error.isInvalid = true ↔
    result = .answered (.error error) ∧ error.isInvalid = true
  /-- After any other failure the caller is given what the entry holds. -/
  covered : ∀ error credential, policy.answerOf result = .error error → error.isInvalid = false →
    entry.credential? = some credential → answer = .ok credential
  /-- After any other failure, with an empty entry, no credential is to be had. -/
  uncovered : ∀ error, policy.answerOf result = .error error → error.isInvalid = false →
    entry.credential? = none →
      answer = .error (.loadFailed resource error) ∧
        (CredentialError.loadFailed resource error).isUnavailable = true
  /-- Where nothing can be used no credential is to be had, whatever the entry holds. -/
  unusable : ∀ candidates, result = .answered (.ok candidates) →
    policy.backend.select candidates = none →
      answer = .error (.nothingSelectable policy.backend resource) ∧
        (CredentialError.nothingSelectable policy.backend resource).isUnavailable = true
  /-- A token that has expired is handed out. -/
  expired : ∀ candidates token, result = .answered (.ok candidates) →
    policy.backend.select candidates = some token → answer = .ok token

namespace Policy

variable {policy : Policy} {resource : String} {entry : Entry} {result : LoadResult} {now : Int64}
  {error : CredentialError} {credential : Credential}

theorem answerOf_answered (answer : Except CredentialError (List Credential)) :
    policy.answerOf (.answered answer) = answer := rfl

/-- A malformed credential is only met by a load that was answered. -/
theorem answerOf_eq_invalid_iff : (policy.answerOf result = .error error ∧ error.isInvalid = true) ↔
    result = .answered (.error error) ∧ error.isInvalid = true := by
  constructor
  · rintro ⟨answer, invalid⟩
    cases result with
    | answered other => exact ⟨congrArg LoadResult.answered answer, invalid⟩
    | timedOut =>
      cases answer
      cases invalid
  · rintro ⟨rfl, invalid⟩
    exact ⟨rfl, invalid⟩

theorem settle_of_invalid (failed : policy.answerOf result = .error error)
    (invalid : error.isInvalid = true) :
    policy.settle resource entry result now = (.error error, entry) := by
  simp [settle, failed, invalid]

theorem settle_of_failed (failed : policy.answerOf result = .error error)
    (valid : error.isInvalid = false) :
    policy.settle resource entry result now = (serveStale resource entry error, entry) := by
  simp [settle, failed, valid]

theorem serveStale_of_held (held : entry.credential? = some credential) :
    serveStale resource entry error = .ok credential := by
  simp [serveStale, held]

theorem serveStale_of_empty (empty : entry.credential? = none) :
    serveStale resource entry error = .error (.loadFailed resource error) := by
  simp [serveStale, empty]

/-- Whoever loads is told the candidate that is selected. -/
theorem settle_of_selected {candidates : List Credential}
    (selects : policy.backend.select candidates = some credential) :
    (policy.settle resource entry (.answered (.ok candidates)) now).1 = .ok credential := by
  simp only [settle, answerOf_answered, selects]
  split
  · rfl
  · split <;> rfl

/-- **The listed cases are all in which a load stores nothing.** -/
theorem storesNothing_iff : policy.StoresNothing result now ↔ policy.stored? result now = none := by
  constructor
  · intro nothing
    cases nothing with
    | failed answer => simp [stored?, answer]
    | unusable answered nothing bare => simp [stored?, answered, answerOf_answered, nothing, bare]
    | expired answered selects isToken lapsed =>
      rw [← Credential.isExpiring_eq_isToken] at isToken
      simp [stored?, answered, answerOf_answered, selects, isToken, lapsed]
  · intro nothing
    unfold stored? at nothing
    split at nothing
    · next error failed => exact .failed failed
    · next candidates answer =>
      have answered := eq_answered_of_answerOf answer
      split at nothing
      · next none => exact .unusable answered none (Option.map_eq_none_iff.1 nothing)
      · next token selects =>
        split at nothing
        · cases nothing
        · next expiring =>
          split at nothing
          · next lapsed =>
            refine .expired answered selects ?_ lapsed
            rw [← Credential.isExpiring_eq_isToken]
            simpa using expiring
          · cases nothing

/-- A load that stores nothing leaves every entry as it was. -/
theorem entry_settle_of_storesNothing (nothing : policy.StoresNothing result now) :
    (policy.settle resource entry result now).2 = entry := by
  have same := policy.settle_entry resource entry result now
  rw [storesNothing_iff.1 nothing, Option.none_or] at same
  exact congrArg Entry.mk same

/-- The errors that the caller of a load is told: that a credential is malformed, as the load has it,
or that nothing could be selected or loaded. -/
inductive Refusal (policy : Policy) (resource : String) (result : LoadResult) :
    CredentialError → Prop where
  | malformed {error : CredentialError} (failed : policy.answerOf result = .error error)
      (invalid : error.isInvalid = true) : Refusal policy resource result error
  | unselected : Refusal policy resource result (.nothingSelectable policy.backend resource)
  | unloaded (cause : CredentialError) : Refusal policy resource result (.loadFailed resource cause)

/-- **A caller who is told an error is told one of these.** -/
theorem refusal_of_settle (told : (policy.settle resource entry result now).1 = .error error) :
    policy.Refusal resource result error := by
  cases answer : policy.answerOf result with
  | error cause =>
    cases invalid : cause.isInvalid with
    | true =>
      rw [settle_of_invalid answer invalid] at told
      cases told
      exact .malformed answer invalid
    | false =>
      rw [settle_of_failed answer invalid] at told
      cases held : entry.credential? with
      | some credential =>
        rw [serveStale_of_held held] at told
        cases told
      | none =>
        rw [serveStale_of_empty held] at told
        cases told
        exact .unloaded cause
  | ok candidates =>
    unfold settle at told
    simp only [answer] at told
    split at told
    · split at told
      · cases told
      · cases told
        exact .unselected
    · split at told
      · cases told
      · split at told <;> cases told

/-- A caller who is told an error is told that a credential is malformed or that none is to be had. -/
theorem category_of_settle (told : (policy.settle resource entry result now).1 = .error error) :
    (policy.answerOf result = .error error ∧ error.isInvalid = true) ∨
      error.isUnavailable = true := by
  cases refusal_of_settle told with
  | malformed failed invalid => exact .inl ⟨failed, invalid⟩
  | unselected => exact .inr rfl
  | unloaded cause => exact .inr rfl

/-- **What a load means that stores nothing.** -/
theorem unstoredAnswer_settle (nothing : policy.StoresNothing result now) :
    UnstoredAnswer policy resource entry result (policy.settle resource entry result now).1 where
  malformed := by
    intro error
    have failure : (policy.answerOf result = .error error ∧ error.isInvalid = true) ↔ _ :=
      answerOf_eq_invalid_iff
    rw [← failure]
    constructor
    · rintro ⟨told, invalid⟩
      rcases category_of_settle told with failed | unavailable
      · exact failed
      · simp only [CredentialError.isInvalid, CredentialError.isUnavailable, beq_iff_eq]
          at invalid unavailable
        cases invalid.symm.trans unavailable
    · rintro ⟨failed, invalid⟩
      rw [settle_of_invalid failed invalid]
      exact ⟨rfl, invalid⟩
  covered := by
    intro error credential failed valid held
    rw [settle_of_failed failed valid, serveStale_of_held held]
  uncovered := by
    intro error failed valid empty
    rw [settle_of_failed failed valid, serveStale_of_empty empty]
    exact ⟨rfl, rfl⟩
  unusable := by
    rintro candidates rfl none
    cases nothing with
    | failed answer => cases answer
    | unusable answered _ bare =>
      exact ⟨by simp [settle, answerOf_answered, none, bare], rfl⟩
    | expired answered selects _ _ =>
      cases answered
      cases none.symm.trans selects
  expired := by
    rintro candidates token rfl selects
    exact settle_of_selected selects

end Policy

/-! ## In runs -/

/-- What an entry keeps was stored last. -/
theorem head?_stores_of_kept {policy : Policy} {past : Course} {store : Store}
    (keeps : kept policy past = some store) : (stores policy past).head? = some store := by
  induction past with
  | nil => cases keeps
  | cons moment past ih =>
    rw [kept] at keeps
    split at keeps
    · rw [stores]
      rcases Option.or_eq_some_iff.1 keeps with new | ⟨nothing, older⟩
      · rw [new]
        rfl
      · rw [nothing]
        exact ih older
    · cases keeps

section Runs

variable {policy : Policy} {past : Past} {state next : State} {step : Step} {event : Event}
  {id : TaskId} {result : LoadResult} {now : Int64} {error : CredentialError}
  {credential : Credential}

/-- An error that a caller is told is the refusal of a load that is settled. -/
theorem Change.refusal_of_reply (change : Change policy state step event next)
    (told : event.reply? = some (.credential (.error error))) :
    ∃ resource result, policy.Refusal resource result error := by
  cases change with
  | @move _ task _ _ _ _ found move =>
    generalize task.phase = before at move
    cases move with
    | settle =>
      simp only [Event.reply?, Option.some.injEq, Reply.credential.injEq] at told
      exact ⟨_, _, Policy.refusal_of_settle told⟩
    | _ => cases told
  | _ => cases told

/-- An error that a caller is told says that a credential is malformed or that none is to be had. -/
theorem Change.category_of_reply (change : Change policy state step event next)
    (told : event.reply? = some (.credential (.error error))) :
    error.isInvalid = true ∨ error.isUnavailable = true := by
  obtain ⟨resource, result, refusal⟩ := change.refusal_of_reply told
  cases refusal with
  | malformed _ invalid => exact .inl invalid
  | unselected => exact .inr rfl
  | unloaded cause => exact .inr rfl

/-- A caller whose load failed is given what the last load that stored anything has stored. -/
theorem Chronicle.last_store_of_covered (record : Chronicle policy past state)
    (taken : state.step policy (.settle id result now) = some (next, .settled (.ok credential)))
    (failed : policy.answerOf result = .error error) :
    ∃ task store, state.tasks.get? id = some task ∧
      (stores policy (course task.resource past)).head? = some store ∧
      Loaded policy task.resource (course task.resource past) store ∧
      store.holding.credential = credential := by
  have change := change_of_step taken
  obtain ⟨task, found, -⟩ := change.exists_settlement
  have about : state.subject? (.settle id result now) = some task.resource := by
    rw [State.subject?, found, Option.map_some]
  have laneRecord := laneRecorded_course record task.resource
  have here := (Sound.of_chronicle record).lane_change change about
  obtain ⟨phase, store, -, -, keeps, same⟩ :=
    laneRecord.exists_kept_of_served here (.stale failed)
  exact ⟨task, store, found, head?_stores_of_kept keeps,
    laneRecord.loaded_of_mem_stores (mem_stores_of_kept keeps), same⟩

end Runs

/-- **A load that stores nothing changes nothing.** Take a refresher, whatever it was set up with.

* A load that fails, is cut off, brings nothing usable while there is no fallback, or brings a token
  that has expired, leaves the credential of the entry and the instant from which on it is stale as
  they were; and what its caller is told is settled by the case and by the entry.
* So does a load whose caller is gone.
* In any run, the entry of a load in flight is the one that its task found when it swept the slot,
  or empty if it was marked then. An error that a caller is told is that a credential is malformed
  or that none is to be had. And what the caller of a failed load is given is what the last load for
  the resource that stored anything has stored. -/
theorem unstored_load_changes_nothing (policy : Policy) :
    (∀ (state next : State) (event : Event) (id : TaskId) (result : LoadResult) (now : Int64),
      state.step policy (.settle id result now) = some (next, event) →
      policy.StoresNothing result now →
        ∃ task answer, state.tasks.get? id = some task ∧
          (next.slots task.slot).entry = (state.slots task.slot).entry ∧
          next.tracked = state.tracked ∧ event = .settled answer ∧
          UnstoredAnswer policy task.resource (state.slots task.slot).entry result answer) ∧
    (∀ (state next : State) (event : Event) (id : TaskId),
      state.step policy (.abandon id) = some (next, event) →
        ∃ task, state.tasks.get? id = some task ∧ event = .silent ∧
          next.tracked = state.tracked ∧
          (next.slots task.slot).entry = (state.slots task.slot).entry) ∧
    (∀ (past : Past) (state : State), Chronicle policy past state →
      (∀ (id : TaskId) (task : Task), state.tasks.get? id = some task → task.phase = .loading →
        ∃ reading found, LoadingVisit past state id task reading found) ∧
      (∀ (step : Step) (next : State) (event : Event) (error : CredentialError),
        state.step policy step = some (next, event) →
        event.reply? = some (.credential (.error error)) →
          error.isInvalid = true ∨ error.isUnavailable = true) ∧
      (∀ (next : State) (id : TaskId) (result : LoadResult) (now : Int64)
        (error : CredentialError) (credential : Credential),
        state.step policy (.settle id result now) = some (next, .settled (.ok credential)) →
        policy.answerOf result = .error error →
          ∃ task store, state.tasks.get? id = some task ∧
            (stores policy (course task.resource past)).head? = some store ∧
            Loaded policy task.resource (course task.resource past) store ∧
            store.holding.credential = credential)) := by
  refine ⟨?_, ?_, ?_⟩
  · intro state next event id result now taken nothing
    obtain ⟨task, found, -, tracked, seen, entry⟩ := (change_of_step taken).exists_settlement
    rw [Policy.entry_settle_of_storesNothing nothing] at entry
    exact ⟨task, _, found, entry, tracked, seen, Policy.unstoredAnswer_settle nothing⟩
  · intro state next event id taken
    exact (change_of_step taken).exists_abandoned
  · intro past state record
    refine ⟨?_, ?_, ?_⟩
    · intro id task found loads
      exact record.exists_loadingVisit found loads
    · intro step next event error taken told
      exact (change_of_step taken).category_of_reply told
    · intro next id result now error credential taken failed
      exact record.last_store_of_covered taken failed

/-- A token is stored. When it is stale one load is abandoned, and the next one is on the way while
the resource is invalidated. -/
def thwarted : List Step :=
  [.beginGet 1 "r", .acquire 1, .sweep 1, .decide 1 0,
    .settle 1 (.answered (.ok [sampleToken 1001 sampleExpiry_pos])) 0, .leave 1,
    .beginGet 2 "r", .acquire 2, .sweep 2, .decide 2 950, .abandon 2, .leave 2,
    .beginGet 3 "r", .acquire 3, .sweep 3, .decide 3 960, .invalidate "r"]

theorem unstored_load_changes_nothing_thwarted :
    Chronicle Policy.standard (historyOf thwarted).1 (historyOf thwarted).2 ∧
      (∃ next, (historyOf thwarted).2.step Policy.standard (.settle 3 .timedOut 970) =
          some (next, .settled (.ok (sampleToken 1001 sampleExpiry_pos))) ∧
        ∃ task store, (historyOf thwarted).2.tasks.get? 3 = some task ∧
          (next.slots task.slot).entry = Entry.keep (sampleToken 1001 sampleExpiry_pos) 900 ∧
          (stores Policy.standard (course task.resource (historyOf thwarted).1)).head? = some store ∧
          store.holding.credential = sampleToken 1001 sampleExpiry_pos) ∧
      ∃ next event, (historyOf thwarted).2.step Policy.standard
          (.settle 3 (.answered (.ok [])) 970) = some (next, event) ∧
        ∃ error, event = .settled (.error error) ∧ error.isUnavailable = true := by
  have record := chronicle_historyOf thwarted
  obtain ⟨settles, -, runs⟩ := unstored_load_changes_nothing Policy.standard
  obtain ⟨-, -, covers⟩ := runs _ _ record
  have covered : ((historyOf thwarted).2.step Policy.standard (.settle 3 .timedOut 970)).map
      Prod.snd = some (.settled (.ok (sampleToken 1001 sampleExpiry_pos))) := by decide +kernel
  have bare : ((historyOf thwarted).2.step Policy.standard
      (.settle 3 (.answered (.ok [])) 970)).isSome = true := by decide +kernel
  have keeps : ((historyOf thwarted).2.tasks.get? 3).map
      (fun task => ((historyOf thwarted).2.slots task.slot).entry) =
        some (Entry.keep (sampleToken 1001 sampleExpiry_pos) 900) := by decide +kernel
  obtain ⟨⟨next, event⟩, taken, told⟩ := Option.map_eq_some_iff.1 covered
  obtain ⟨⟨behind, seen⟩, ended⟩ := Option.isSome_iff_exists.1 bare
  cases told
  refine ⟨record, ⟨next, taken, ?_⟩, behind, seen, ended, ?_⟩
  · obtain ⟨task, answer, found, entry, -⟩ :=
      settles _ next _ 3 .timedOut 970 taken (.failed rfl)
    obtain ⟨other, store, same, last, -, given⟩ :=
      covers next 3 .timedOut 970 _ _ taken rfl
    cases found.symm.trans same
    rw [found, Option.map_some] at keeps
    exact ⟨task, store, found, entry.trans (Option.some.inj keeps), last, given⟩
  · obtain ⟨task, answer, -, -, -, same, told⟩ :=
      settles _ behind seen 3 (.answered (.ok [])) 970 ended (.unusable rfl rfl rfl)
    obtain ⟨given, unavailable⟩ := told.unusable [] rfl rfl
    exact ⟨_, same.trans (congrArg Event.settled given), unavailable⟩

end StorageBroker.Refresher
