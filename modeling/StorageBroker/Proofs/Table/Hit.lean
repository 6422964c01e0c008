import StorageBroker.Proofs.Table.Origin

/-!
# What a lookup gives

A caller is given a snapshot only when the probe of the lookup tells the very location that the
snapshot was read from. The snapshot was kept of the table when the lookup began, installed for it by
an update and superseded by nothing up to then, so a lookup that begins after an invalidation or a
newer update never gives an older snapshot (`hit_safety`). What happens while the probe is under way
plays no part.

For an entry that it finds a lookup asks a single probe; where it finds none, it asks none.
-/

set_option autoImplicit false

namespace StorageBroker.TableCache

/-- A snapshot that a task may be given for a table: it was installed as an entry, the last lookup of
the task found this entry, which nothing had superseded until then, and the task has done nothing
since. -/
structure Vouched {μ : Type} (task : TaskId) (id : TableId) (entry : Stamped μ)
    (installed looked : Nat) (past : Past μ) : Prop where
  installs : Occurs (Installs id entry) installed past
  finds : lookedUp? task past = some (looked, id, some entry)
  before : installed < looked
  current : ∀ instant, Occurs (Supersedes id) instant past → instant < looked → instant ≤ installed
  waits : ¬ OccursSince (TakenBy task) looked past

section Hits

variable {μ : Type} [Located μ] {capacity : Option Nat} {state next : State μ} {step : Step μ}
  {past : Past μ} {task : TaskId} {lookup : Lookup μ}

/-- The entry that a lookup asks a probe about is vouched for. -/
theorem Chronicle.vouched (record : Chronicle capacity past state)
    (under : state.lookups.get? task = some lookup) (asks : lookup.phase = .probing) :
    ∃ installed looked, Vouched task lookup.id lookup.found installed looked past := by
  obtain ⟨looked, finds, reached⟩ := Chronicle.exists_lookup record under
  obtain ⟨installed, before, installs, current⟩ := Chronicle.exists_installed_before record finds
  rw [asks] at reached
  exact ⟨installed, looked, installs, finds, before, current, reached⟩

/-- A snapshot is given only by a probe that tells its location. -/
theorem Change.of_answered {snapshot : μ}
    (change : Change capacity state step (.answered (some snapshot)) next) :
    ∃ task id found, state.lookups.get? task = some ⟨id, found, .probing⟩ ∧
      found.snapshot = snapshot ∧
      step = .probed task (.answered (.ok (some (Located.location snapshot)))) := by
  cases change with
  | @confirm task id found result asks there =>
    rw [ProbeResult.location?_eq_some_iff] at there
    subst there
    exact ⟨task, id, found, asks, rfl, rfl⟩

end Hits

/-- **A hit is safe.** In any run, a caller that is given a snapshot has looked up a table that an
update had installed this snapshot for; nothing had superseded it when the lookup began; and the probe
of the lookup told, as its next step, the location of the snapshot. A lookup that found an entry has
asked one probe, about its table, and a lookup that found none has asked none. -/
theorem hit_safety {μ : Type} [Located μ] {capacity : Option Nat} {past : Past μ} {state : State μ}
    (record : Chronicle capacity past state) :
    (∀ (step : Step μ) (snapshot : μ) (next : State μ),
      state.step capacity step = some (next, .answered (some snapshot)) →
        ∃ task id entry installed looked,
          step = .probed task (.answered (.ok (some (Located.location snapshot)))) ∧
          entry.snapshot = snapshot ∧ Vouched task id entry installed looked past) ∧
    (∀ (task : TaskId) (looked : Nat) (id : TableId) (entry : Stamped μ),
      lookedUp? task past = some (looked, id, some entry) → probes task past = [id]) ∧
    (∀ (task : TaskId) (looked : Nat) (id : TableId),
      lookedUp? task past = some (looked, id, none) → probes task past = []) := by
  refine ⟨?_, ?_, ?_⟩
  · intro step snapshot next taken
    obtain ⟨task, id, found, asks, same, told⟩ := (change_of_step taken).of_answered
    obtain ⟨installed, looked, vouched⟩ := Chronicle.vouched record asks rfl
    exact ⟨task, id, found, installed, looked, told, same, vouched⟩
  · intro task looked id entry finds
    exact Chronicle.probes_of_lookedUp? record finds
  · intro task looked id misses
    exact Chronicle.probes_of_lookedUp? record misses

theorem hit_safety_reinserted :
    Chronicle (some 1) reinsertionHistory.1 reinsertionHistory.2 ∧
      probes 2 reinsertionHistory.1 = [sampleTable] ∧ probes 3 reinsertionHistory.1 = [] ∧
      ∃ next, reinsertionHistory.2.step (some 1) (.probed 2 (.answered (.ok (some "1")))) =
          some (next, .answered (some (sampleMetadata "1"))) ∧
        ∃ installed looked, Vouched 2 sampleTable ⟨1, sampleMetadata "1"⟩ installed looked
          reinsertionHistory.1 := by
  have safe := hit_safety chronicle_reinsertion
  have finds : lookedUp? 2 reinsertionHistory.1 =
      some (5, sampleTable, some ⟨1, sampleMetadata "1"⟩) := by decide +kernel
  have misses : lookedUp? 3 reinsertionHistory.1 = some (6, ⟨["sales"], "returns"⟩, none) := by
    decide +kernel
  refine ⟨chronicle_reinsertion, safe.2.1 2 5 _ _ finds, safe.2.2 3 6 _ misses, _, rfl, ?_⟩
  obtain ⟨task, id, entry, installed, looked, told, same, vouched⟩ :=
    safe.1 (.probed 2 (.answered (.ok (some "1")))) (sampleMetadata "1") _ rfl
  cases told
  cases finds.symm.trans vouched.finds
  exact ⟨installed, 5, vouched⟩

end StorageBroker.TableCache
