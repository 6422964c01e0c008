/-!
# Histories

A history keeps the moments of a run, the latest in front. A moment is one step with what was seen
of it, between the state before it and the state behind it. The instant of a moment is the number
of moments before it, so a later moment has a greater instant.

Two questions are asked of a history: whether something occurred at an instant (`Occurs`) or after it
(`OccursSince`), and when something was the case for the last time (`latest?`). The history of given
steps is made by `replay`.
-/

set_option autoImplicit false

namespace StorageBroker

/-- One step of a machine. -/
structure Moment (σ τ ε : Type) where
  before : σ
  step : τ
  event : ε
  after : σ

/-- The histories of the runs of a machine, each with the state that is reached. -/
inductive Recorded {σ τ ε : Type} (next : σ → τ → Option (σ × ε)) (start : σ) :
    List (Moment σ τ ε) → σ → Prop where
  | nothing : Recorded next start [] start
  | further {past : List (Moment σ τ ε)} {state reached : σ} {taken : τ} {event : ε}
      (record : Recorded next start past state) (here : next state taken = some (reached, event)) :
      Recorded next start (⟨state, taken, event, reached⟩ :: past) reached

/-! ## Histories of given steps -/

section Replay

variable {σ τ ε : Type} (next : σ → τ → Option (σ × ε))

/-- A history with one more step. A step that cannot be taken is passed over. -/
def extend (reached : List (Moment σ τ ε) × σ) (taken : τ) : List (Moment σ τ ε) × σ :=
  match next reached.2 taken with
  | some (state, event) => (⟨reached.2, taken, event, state⟩ :: reached.1, state)
  | none => reached

/-- The history of the steps that can be taken, with the state that is reached. -/
def replay (start : σ) (steps : List τ) : List (Moment σ τ ε) × σ :=
  steps.foldl (extend next) ([], start)

variable {next} {start : σ}

theorem Recorded.extend {reached : List (Moment σ τ ε) × σ}
    (record : Recorded next start reached.1 reached.2) (taken : τ) :
    Recorded next start (extend next reached taken).1 (extend next reached taken).2 := by
  unfold StorageBroker.extend
  split
  · next state event here => exact record.further here
  · exact record

/-- One step more is replayed behind all others. -/
theorem replay_concat (steps : List τ) (taken : τ) :
    replay next start (steps ++ [taken]) = extend next (replay next start steps) taken :=
  List.foldl_append

/-- A step that can be taken is the last moment of the history. -/
theorem extend_of_some {reached : List (Moment σ τ ε) × σ} {taken : τ} {state : σ} {event : ε}
    (here : next reached.2 taken = some (state, event)) :
    StorageBroker.extend next reached taken =
      (⟨reached.2, taken, event, state⟩ :: reached.1, state) := by
  rw [StorageBroker.extend, here]

/-- What is replayed is a history of the machine. -/
theorem recorded_replay (steps : List τ) :
    Recorded next start (replay next start steps).1 (replay next start steps).2 := by
  have further : ∀ reached : List (Moment σ τ ε) × σ, Recorded next start reached.1 reached.2 →
      Recorded next start (steps.foldl (StorageBroker.extend next) reached).1
        (steps.foldl (StorageBroker.extend next) reached).2 := by
    induction steps with
    | nil => exact fun reached record => record
    | cons taken rest ih => exact fun reached record => ih _ (record.extend taken)
  exact further ([], start) .nothing

end Replay

/-! ## Questions -/

variable {α β : Type}

/-- Something is the case of the moment at an instant. -/
def Occurs (holds : α → Prop) (instant : Nat) : List α → Prop
  | [] => False
  | moment :: past => (instant = past.length ∧ holds moment) ∨ Occurs holds instant past

instance Occurs.decidable (holds : α → Prop) [DecidablePred holds] (instant : Nat) :
    (past : List α) → Decidable (Occurs holds instant past)
  | [] => inferInstanceAs (Decidable False)
  | moment :: past =>
    have := Occurs.decidable holds instant past
    inferInstanceAs (Decidable ((instant = past.length ∧ holds moment) ∨ Occurs holds instant past))

/-- Something is the case of a moment after an instant. -/
def OccursSince (holds : α → Prop) (start : Nat) (past : List α) : Prop :=
  ∃ instant, start < instant ∧ Occurs holds instant past

/-- The last moment of which something was found, as its instant with what was found. -/
def latest? (find : α → Option β) : List α → Option (Nat × β)
  | [] => none
  | moment :: past =>
    match find moment with
    | some found => some (past.length, found)
    | none => latest? find past

namespace Occurs

variable {holds : α → Prop} {instant : Nat} {moment : α} {past : List α}

theorem here (moment : α) (past : List α) (held : holds moment) :
    Occurs holds past.length (moment :: past) :=
  .inl ⟨rfl, held⟩

theorem later (occurs : Occurs holds instant past) : Occurs holds instant (moment :: past) :=
  .inr occurs

theorem lt_length (occurs : Occurs holds instant past) : instant < past.length := by
  induction past with
  | nil => exact occurs.elim
  | cons moment past ih =>
    rcases occurs with ⟨same, -⟩ | before
    · rw [same]
      exact Nat.lt_succ_self past.length
    · exact Nat.lt_succ_of_lt (ih before)

/-- What does not hold of the last moment occurred before it. -/
theorem of_cons (occurs : Occurs holds instant (moment :: past)) (not : ¬ holds moment) :
    Occurs holds instant past := by
  rcases occurs with ⟨-, held⟩ | before
  · exact absurd held not
  · exact before

theorem mono {weaker : α → Prop} (implies : ∀ moment, holds moment → weaker moment)
    (occurs : Occurs holds instant past) : Occurs weaker instant past := by
  induction past with
  | nil => exact occurs.elim
  | cons moment past ih =>
    rcases occurs with ⟨same, held⟩ | before
    · exact .inl ⟨same, implies moment held⟩
    · exact .inr (ih before)

/-- What occurred at one instant is the case of one moment. -/
theorem and {other : α → Prop} (occurs : Occurs holds instant past)
    (also : Occurs other instant past) :
    Occurs (fun moment => holds moment ∧ other moment) instant past := by
  induction past with
  | nil => exact occurs.elim
  | cons moment past ih =>
    rcases occurs with ⟨same, held⟩ | before
    · rcases also with ⟨-, heldToo⟩ | earlier
      · exact .inl ⟨same, held, heldToo⟩
      · exact absurd same (Nat.ne_of_lt earlier.lt_length)
    · rcases also with ⟨same, -⟩ | earlier
      · exact absurd same (Nat.ne_of_lt before.lt_length)
      · exact .inr (ih before earlier)

theorem exists_mem (occurs : Occurs holds instant past) : ∃ moment ∈ past, holds moment := by
  induction past with
  | nil => exact occurs.elim
  | cons moment past ih =>
    rcases occurs with ⟨-, held⟩ | before
    · exact ⟨moment, List.mem_cons_self, held⟩
    · obtain ⟨other, member, held⟩ := ih before
      exact ⟨other, List.mem_cons_of_mem moment member, held⟩

/-- What occurred stays so in a longer history. -/
theorem append (later : List α) (occurs : Occurs holds instant past) :
    Occurs holds instant (later ++ past) := by
  induction later with
  | nil => exact occurs
  | cons moment later ih => exact ih.later

/-- What occurred at an instant of a shorter history is told by that one. -/
theorem of_append {later : List α} (occurs : Occurs holds instant (later ++ past))
    (early : instant < past.length) : Occurs holds instant past := by
  induction later with
  | nil => exact occurs
  | cons moment later ih =>
    rcases occurs with ⟨same, -⟩ | before
    · simp only [List.append_eq, List.length_append] at same
      omega
    · exact ih before

/-- What occurred in another view of a history. -/
theorem of_map {view : β → α} {moments : List β}
    (occurs : Occurs holds instant (moments.map view)) :
    Occurs (fun moment => holds (view moment)) instant moments := by
  induction moments with
  | nil => exact occurs.elim
  | cons moment moments ih =>
    rcases occurs with ⟨same, held⟩ | before
    · rw [List.length_map] at same
      exact .inl ⟨same, held⟩
    · exact .inr (ih before)

end Occurs

/-- A history goes on with one that starts where it ends. -/
theorem Recorded.append {σ τ ε : Type} {next : σ → τ → Option (σ × ε)} {start state reached : σ}
    {past later : List (Moment σ τ ε)} (record : Recorded next start past state)
    (further : Recorded next state later reached) :
    Recorded next start (later ++ past) reached := by
  induction further with
  | nothing => exact record
  | further _ here ih => exact ih.further here

/-- A history up to a moment of it is a history, and the moment is the next step. -/
theorem Recorded.exists_before {σ τ ε : Type} {next : σ → τ → Option (σ × ε)} {start state : σ}
    {past : List (Moment σ τ ε)} {holds : Moment σ τ ε → Prop} {instant : Nat}
    (record : Recorded next start past state) (occurs : Occurs holds instant past) :
    ∃ later moment earlier, past = later ++ moment :: earlier ∧ earlier.length = instant ∧
      holds moment ∧ Recorded next start earlier moment.before ∧
      next moment.before moment.step = some (moment.after, moment.event) := by
  induction record with
  | nothing => exact occurs.elim
  | @further past state reached taken event record here ih =>
    rcases occurs with ⟨same, held⟩ | before
    · exact ⟨[], ⟨state, taken, event, reached⟩, past, rfl, same.symm, held, record, here⟩
    · obtain ⟨later, moment, earlier, rfl, found⟩ := ih before
      exact ⟨⟨state, taken, event, reached⟩ :: later, moment, earlier, rfl, found⟩

namespace OccursSince

variable {holds : α → Prop} {start : Nat} {moment : α} {past : List α}

theorem here (before : start < past.length) (held : holds moment) :
    OccursSince holds start (moment :: past) :=
  ⟨past.length, before, .here moment past held⟩

theorem later (since : OccursSince holds start past) :
    OccursSince holds start (moment :: past) := by
  obtain ⟨instant, after, occurs⟩ := since
  exact ⟨instant, after, occurs.later⟩

theorem cons_iff : OccursSince holds start (moment :: past) ↔
    (start < past.length ∧ holds moment) ∨ OccursSince holds start past := by
  constructor
  · rintro ⟨instant, after, ⟨rfl, held⟩ | before⟩
    · exact .inl ⟨after, held⟩
    · exact .inr ⟨instant, after, before⟩
  · rintro (⟨before, held⟩ | since)
    · exact here before held
    · exact since.later

theorem not_cons (still : ¬ OccursSince holds start past) (not : ¬ holds moment) :
    ¬ OccursSince holds start (moment :: past) := by
  rw [cons_iff]
  rintro (⟨-, held⟩ | since)
  · exact not held
  · exact still since

/-- Nothing has occurred since the last moment. -/
theorem not_since_last : ¬ OccursSince holds past.length (moment :: past) := by
  rintro ⟨instant, after, occurs⟩
  exact absurd occurs.lt_length (by simp only [List.length_cons]; omega)

theorem of_le {earlier : Nat} (since : OccursSince holds start past) (le : earlier ≤ start) :
    OccursSince holds earlier past := by
  obtain ⟨instant, after, occurs⟩ := since
  exact ⟨instant, Nat.lt_of_le_of_lt le after, occurs⟩

instance decidable (holds : α → Prop) [DecidablePred holds] (start : Nat) :
    (past : List α) → Decidable (OccursSince holds start past)
  | [] => isFalse fun since => by
    obtain ⟨_, _, occurs⟩ := since
    exact occurs.elim
  | moment :: past =>
    have := decidable holds start past
    decidable_of_iff ((start < past.length ∧ holds moment) ∨ OccursSince holds start past)
      cons_iff.symm

end OccursSince

namespace latest?

variable {find : α → Option β} {moment : α} {past : List α}

theorem cons_of_some {found : β} (here : find moment = some found) :
    latest? find (moment :: past) = some (past.length, found) := by
  simp only [latest?, here]

theorem cons_of_none (missing : find moment = none) :
    latest? find (moment :: past) = latest? find past := by
  simp only [latest?, missing]

theorem lt_length {instant : Nat} {found : β} (last : latest? find past = some (instant, found)) :
    instant < past.length := by
  induction past with
  | nil => cases last
  | cons moment past ih =>
    unfold latest? at last
    split at last
    · cases last
      exact Nat.lt_succ_self past.length
    · exact Nat.lt_succ_of_lt (ih last)

theorem occurs {instant : Nat} {found : β} (last : latest? find past = some (instant, found)) :
    Occurs (fun moment => find moment = some found) instant past := by
  induction past with
  | nil => cases last
  | cons moment past ih =>
    unfold latest? at last
    split at last
    · next here =>
      cases last
      exact .here moment past here
    · exact (ih last).later

end latest?

end StorageBroker
