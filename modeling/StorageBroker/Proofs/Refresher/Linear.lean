import StorageBroker.Proofs.Refresher.Calls

/-!
# Calls have an order

The calls of a run on one resource can be put in an order that respects real time and in which, made
one at a time, each call has the same outcome (`linearizable`).

A task that gets a credential takes its place in the order when it has its answer, but before the
invalidations that came after its sweep: these mark the slot, and what the task stores is emptied by
the next one. So while a task has swept the slot, the order is kept in two parts (`Order`): the calls
before its place, whose effect is the entry of the slot, and the invalidations behind it. Otherwise
the effect of all calls is what can be seen of the entry (`Lane.view`).
-/

set_option autoImplicit false

namespace StorageBroker.Refresher

/-! ## What can be seen of an entry -/

/-- The entry of a slot as it will be used; one that is marked counts as empty. -/
def Slot.view (slot : Slot) : Entry := if slot.invalidated then Entry.empty else slot.entry

/-- The entry of a lane as it will be used. -/
def Lane.view (lane : Lane) : Entry :=
  match lane.slot with
  | some slot => slot.view
  | none => Entry.empty

namespace Slot

variable (slot : Slot) (id : TaskId)

theorem entry_swept_eq_view : slot.swept.entry = slot.view := by
  unfold swept view
  split <;> rfl

theorem freshness_eq_view (now : Int64) : slot.freshness now = slot.view.freshness now := by
  unfold freshness view
  split <;> rfl

theorem view_freedBy : (slot.freedBy id).view = slot.view := by
  rw [view, view, invalidated_freedBy, entry_freedBy]

end Slot

/-! ## Orders of the calls -/

/-- The calls of a course in an order that respects real time. The first part of it leads from the
empty entry to the one given; the second part consists of invalidations. -/
structure Order (policy : Policy) (resource : String) (past : Course) (settled pending : List Call)
    (entry : Entry) : Prop where
  perm : (settled ++ pending).Perm (calls past)
  respects : (settled ++ pending).Pairwise fun earlier later => ¬ later.ended < earlier.begun
  explained : Explained policy resource Entry.empty settled entry
  invalidates : ∀ call ∈ pending, call.deed = .invalidate ∧ call.told = none

namespace Order

variable {policy : Policy} {resource : String} {past : Course} {settled pending : List Call}
  {entry next : Entry} {moment : Moment Lane (Option Step) Event} {call : Call}

theorem nothing : Order policy resource [] [] [] Entry.empty where
  perm := List.Perm.nil
  respects := List.Pairwise.nil
  explained := .nil Entry.empty
  invalidates := by simp

variable (order : Order policy resource past settled pending entry)
include order

/-- A moment at which no call is answered. -/
theorem skip (silent : call? past moment = none) :
    Order policy resource (moment :: past) settled pending entry where
  perm := by
    rw [calls, silent]
    exact order.perm
  respects := order.respects
  explained := order.explained
  invalidates := order.invalidates

/-- All calls have begun by now. -/
theorem begun_lt_length {other : Call} (member : other ∈ settled ++ pending) :
    other.begun < past.length :=
  begun_lt_length_of_mem (order.perm.mem_iff.1 member)

/-- A call is answered that takes its place behind the first part of the order. -/
theorem insert (answered : call? past moment = some call)
    (means : Means policy resource entry call.deed next call.outcome)
    (since : ∀ other ∈ pending, call.begun ≤ other.ended) :
    Order policy resource (moment :: past) (settled ++ [call]) pending next where
  perm := by
    rw [calls, answered, List.append_assoc]
    exact List.perm_middle.trans (order.perm.cons call)
  respects := by
    obtain ⟨first, second, between⟩ := List.pairwise_append.1 order.respects
    rw [List.append_assoc]
    refine List.pairwise_append.2 ⟨first, List.pairwise_cons.2 ⟨?_, second⟩, ?_⟩
    · intro other member
      exact Nat.not_lt.2 (since other member)
    · intro earlier member later behind
      rcases List.mem_cons.1 behind with rfl | inside
      · have begun := order.begun_lt_length (List.mem_append_left pending member)
        have ended := (bounds_of_call? answered).2
        omega
      · exact between earlier member later inside
  explained := order.explained.concat means
  invalidates := order.invalidates

/-- An invalidation is put at the end. -/
theorem defer (answered : call? past moment = some call)
    (invalidates : call.deed = .invalidate ∧ call.told = none) :
    Order policy resource (moment :: past) settled (pending ++ [call]) entry where
  perm := by
    rw [calls, answered, ← List.append_assoc]
    exact (List.perm_append_singleton call _).trans (order.perm.cons call)
  respects := by
    rw [← List.append_assoc]
    refine List.pairwise_append.2 ⟨order.respects, List.pairwise_singleton _ _, ?_⟩
    intro earlier member later behind
    rw [List.mem_singleton.1 behind, (bounds_of_call? answered).2]
    exact Nat.not_lt.2 (Nat.le_of_lt (order.begun_lt_length member))
  explained := order.explained
  invalidates := by
    intro other member
    rcases List.mem_append.1 member with inside | last
    · exact order.invalidates other inside
    · rw [List.mem_singleton.1 last]
      exact invalidates

/-- The two parts become one. -/
theorem merge : Order policy resource past (settled ++ pending) []
    (if pending = [] then entry else Entry.empty) where
  perm := by
    rw [List.append_nil]
    exact order.perm
  respects := by
    rw [List.append_nil]
    exact order.respects
  explained := order.explained.append (.of_invalidations order.invalidates)
  invalidates := by simp

end Order

/-! ## The order along a course -/

/-- A task has swept the slot of a lane, and has no answer yet. -/
def Lane.Uses (lane : Lane) (id : TaskId) : Prop :=
  lane.phases id = some .swept ∨ lane.phases id = some .loading

/-- The calls of a course have an order. While no task uses the entry, it leads to what can be seen
of the entry. While a task uses it, the first part of the order leads to the entry, and the second
part has the invalidations that came since the task began; the slot is marked if there are any. -/
inductive Linear (policy : Policy) (resource : String) (past : Course) (lane : Lane) : Prop where
  | free {settled : List Call} (unused : ∀ id, ¬ lane.Uses id)
      (order : Order policy resource past settled [] lane.view)
  | busy {id : TaskId} {slot : Slot} {start : Nat} {settled pending : List Call}
      (uses : lane.Uses id) (tracked : lane.slot = some slot) (begins : begun id past = some start)
      (order : Order policy resource past settled pending slot.entry)
      (since : ∀ call ∈ pending, start ≤ call.ended)
      (mark : slot.invalidated = true ↔ pending ≠ [])

section Uses

variable {lane : Lane} {slot : Option Slot} {id other : TaskId} {phase : Option Phase}

theorem Lane.uses_put_of_ne (different : id ≠ other) :
    (lane.put slot id phase).Uses other ↔ lane.Uses other := by
  rw [Uses, Uses, Lane.phases_put, if_neg different]

/-- A task that comes to a phase in which it does not use the entry. -/
theorem Lane.not_uses_put (unused : ∀ other, id ≠ other → ¬ lane.Uses other)
    (notSwept : phase ≠ some .swept) (notLoading : phase ≠ some .loading) :
    ∀ other, ¬ (lane.put slot id phase).Uses other := by
  intro other uses
  by_cases same : id = other
  · rw [Uses, Lane.phases_put, if_pos same] at uses
    rcases uses with swept | loading
    · exact notSwept swept
    · exact notLoading loading
  · exact unused other same ((Lane.uses_put_of_ne same).1 uses)

theorem LaneSound.uses_unique (sound : LaneSound lane) (first : lane.Uses id)
    (second : lane.Uses other) : id = other := by
  rcases first with one | one <;> rcases second with two | two <;>
    exact sound.lock_exclusive one two rfl rfl

end Uses

theorem Lane.view_of_slot {lane : Lane} {slot : Slot} (tracked : lane.slot = some slot) :
    lane.view = slot.view := by
  rw [view, tracked]

theorem Lane.view_of_untracked {lane : Lane} (untracked : lane.slot = none) :
    lane.view = Entry.empty := by
  rw [view, untracked]

section Steps

variable {policy : Policy} {resource : String} {past : Course} {lane next : Lane}
  {step : Option Step} {event : Event}

/-- Nobody is told anything by a task without the lock, and nothing is invalidated. -/
theorem Move.call?_eq_none {id : TaskId} {taken : Step} {before phase : Phase} {slot behind : Slot}
    (move : Move policy id resource taken event before slot phase behind)
    (unlocked : before.hasLock ≠ true) : call? past ⟨lane, some taken, event, next⟩ = none := by
  cases move with
  | acquire _ => rfl
  | acquireToLook _ => rfl
  | abandon _ => rfl
  | sweep => exact absurd rfl unlocked
  | hit _ => exact absurd rfl unlocked
  | load _ => exact absurd rfl unlocked
  | settle => exact absurd rfl unlocked
  | look => exact absurd rfl unlocked

/-- A task that used the entry uses it no longer. -/
theorem Linear.finish {settled pending : List Call} {behind : Slot}
    (unused : ∀ id, ¬ next.Uses id) (tracked : next.slot = some behind)
    (order : Order policy resource past settled pending behind.entry)
    (mark : behind.invalidated = true ↔ pending ≠ []) : Linear policy resource past next := by
  have view : next.view = if pending = [] then behind.entry else Entry.empty := by
    rw [Lane.view_of_slot tracked, Slot.view]
    by_cases none : pending = []
    · rw [if_pos none, if_neg fun marked => mark.1 marked none]
    · rw [if_neg none, if_pos (mark.2 none)]
  have merged := order.merge
  rw [← view] at merged
  exact .free unused merged

/-- Where nothing happens in a lane, no call is answered. -/
theorem call?_elsewhere : call? past ⟨lane, none, event, lane⟩ = none := by
  apply if_neg
  intro evicts
  cases evicts.2.1.symm.trans evicts.2.2

section Free

variable {settled : List Call} (order : Order policy resource past settled [] lane.view)
include order

/-- The entry is left alone, and no call is answered. -/
theorem Linear.free_of_silent (unused : ∀ id, ¬ next.Uses id)
    (silent : call? past ⟨lane, step, event, next⟩ = none) (view : next.view = lane.view) :
    Linear policy resource (⟨lane, step, event, next⟩ :: past) next := by
  have skipped := order.skip silent
  rw [← view] at skipped
  exact .free unused skipped

/-- A call is answered, and it does to the entry what it means. -/
theorem Linear.free_of_call {call : Call} (unused : ∀ id, ¬ next.Uses id)
    (answered : call? past ⟨lane, step, event, next⟩ = some call)
    (means : Means policy resource lane.view call.deed next.view call.outcome) :
    Linear policy resource (⟨lane, step, event, next⟩ :: past) next :=
  .free unused (order.insert answered means (by simp))

/-- While no task uses the entry, a task sweeps it and uses it from then on, or it looks, or it only
waits. -/
theorem Linear.further_of_free_move {id : TaskId} {taken : Step} {before phase : Phase}
    {slot behind : Slot} (record : LaneRecorded policy resource past lane)
    (found : lane.phases id = some before) (tracked : lane.slot = some slot)
    (move : Move policy id resource taken event before slot phase behind)
    (unused : ∀ other, ¬ lane.Uses other) :
    Linear policy resource
      (⟨lane, some taken, event, lane.put (some behind) id (some phase)⟩ :: past)
      (lane.put (some behind) id (some phase)) := by
  have others : ∀ other, id ≠ other → ¬ lane.Uses other := fun other _ => unused other
  have view := Lane.view_of_slot tracked
  obtain ⟨start, begins, -⟩ := record.exists_begun found
  cases move with
  | acquire _ =>
    refine .free_of_silent order (Lane.not_uses_put others nofun nofun) rfl ?_
    rw [view]
    rfl
  | acquireToLook _ =>
    refine .free_of_silent order (Lane.not_uses_put others nofun nofun) rfl ?_
    rw [view]
    rfl
  | sweep =>
    have skipped : Order policy resource
        (⟨lane, some (.sweep id), .silent, lane.put (some slot.swept) id (some .swept)⟩ :: past)
        settled [] slot.swept.entry := by
      rw [Slot.entry_swept_eq_view, ← view]
      exact order.skip rfl
    have uses : (lane.put (some slot.swept) id (some .swept)).Uses id := by
      refine .inl ?_
      rw [Lane.phases_put, if_pos rfl]
    exact .busy uses rfl ((begun_cons_of_none rfl).trans begins) skipped (by simp) (by simp)
  | hit _ => exact absurd (.inl found) (unused id)
  | load _ => exact absurd (.inl found) (unused id)
  | settle => exact absurd (.inr found) (unused id)
  | @look _ now =>
    have answered : call? past ⟨lane, some (.look id now), .looked (slot.freshness now),
        lane.put (some (slot.released slot.entry)) id (some .leaving)⟩ =
        some ⟨start, past.length, .look (some now), some (.freshness (slot.freshness now))⟩ := by
      simp [call?, begins]
    refine .free_of_call order (Lane.not_uses_put others nofun nofun) answered ?_
    rw [view, Slot.freshness_eq_view]
    exact .look
  | abandon waits =>
    cases waits with
    | loading => exact absurd (.inr found) (unused id)
    | _ =>
      refine .free_of_silent order (Lane.not_uses_put others nofun nofun) rfl ?_
      rw [view]
      exact Slot.view_freedBy slot id

theorem Linear.further_of_free (record : LaneRecorded policy resource past lane)
    (here : LaneChange policy resource lane step event next)
    (unused : ∀ other, ¬ lane.Uses other) :
    Linear policy resource (⟨lane, step, event, next⟩ :: past) next := by
  have others : ∀ {id : TaskId}, ∀ other, id ≠ other → ¬ lane.Uses other :=
    fun other _ => unused other
  cases here with
  | elsewhere => exact .free_of_silent order unused call?_elsewhere rfl
  | evicted tracked _ =>
    have evicts : call? past ⟨lane, none, .silent, ⟨none, lane.phases⟩⟩ =
        some ⟨past.length, past.length, .invalidate, none⟩ :=
      if_pos ⟨rfl, by rw [tracked]; rfl, rfl⟩
    exact .free_of_call order unused evicts .invalidate
  | join _ tracked =>
    refine .free_of_silent order (Lane.not_uses_put others nofun nofun) rfl ?_
    rw [Lane.view_of_slot tracked]
    rfl
  | opening _ untracked =>
    refine .free_of_silent order (Lane.not_uses_put others nofun nofun) rfl ?_
    rw [Lane.view_of_untracked untracked]
    rfl
  | joinToLook _ tracked =>
    refine .free_of_silent order (Lane.not_uses_put others nofun nofun) rfl ?_
    rw [Lane.view_of_slot tracked]
    rfl
  | lookAtNothing _ untracked =>
    refine .free_of_call order unused rfl ?_
    rw [Lane.view_of_untracked untracked]
    exact .lookAtNothing
  | move found tracked move => exact .further_of_free_move order record found tracked move unused
  | leave _ => exact .free_of_silent order (Lane.not_uses_put others nofun nofun) rfl rfl
  | invalidateNothing untracked =>
    refine .free_of_call order unused rfl ?_
    rw [Lane.view_of_untracked untracked]
    exact .invalidate
  | invalidateIdle _ _ => exact .free_of_call order unused rfl .invalidate
  | invalidateHeld _ _ => exact .free_of_call order unused rfl .invalidate

end Free

/-- The task that uses the entry goes on: it begins a load, or it has its answer, or it is gone. -/
theorem Linear.further_of_own_move {id : TaskId} {taken : Step} {before phase : Phase}
    {slot behind : Slot} {start : Nat} {settled pending : List Call}
    (record : LaneRecorded policy resource past lane) (found : lane.phases id = some before)
    (uses : before = .swept ∨ before = .loading) (tracked : lane.slot = some slot)
    (move : Move policy id resource taken event before slot phase behind)
    (begins : begun id past = some start)
    (order : Order policy resource past settled pending slot.entry)
    (since : ∀ call ∈ pending, start ≤ call.ended)
    (mark : slot.invalidated = true ↔ pending ≠ []) :
    Linear policy resource
      (⟨lane, some taken, event, lane.put (some behind) id (some phase)⟩ :: past)
      (lane.put (some behind) id (some phase)) := by
  have used : lane.Uses id := by
    rcases uses with rfl | rfl
    · exact .inl found
    · exact .inr found
  have others : ∀ other, id ≠ other → ¬ lane.Uses other := by
    intro other different usedByOther
    exact different (record.sound.uses_unique used usedByOther)
  cases move with
  | @hit _ now credential fresh =>
    have answered : call? past ⟨lane, some (.decide id now), .hit credential,
        lane.put (some (slot.released slot.entry)) id (some .leaving)⟩ =
        some ⟨start, past.length, .get now none, some (.credential (.ok credential))⟩ := by
      simp [call?, begins]
    have inserted := order.insert answered (.hit fresh) since
    exact .finish (Lane.not_uses_put others nofun nofun) rfl inserted mark
  | @load _ now stale =>
    have loads : (lane.put (some slot) id (some .loading)).Uses id := by
      refine .inr ?_
      rw [Lane.phases_put, if_pos rfl]
    exact .busy loads rfl ((begun_cons_of_none rfl).trans begins) (order.skip rfl) since mark
  | @settle _ result now =>
    obtain ⟨instant, reading, decides, stale, -⟩ := record.exists_decided found tracked
    have answered : call? past ⟨lane, some (.settle id result now),
        .settled (policy.settle resource slot.entry result now).1,
        lane.put (some (slot.released (policy.settle resource slot.entry result now).2)) id
          (some .leaving)⟩ =
        some ⟨start, past.length, .get reading (some (result, now)),
          some (.credential (policy.settle resource slot.entry result now).1)⟩ := by
      simp [call?, begins, decides]
    have inserted := order.insert answered (.load stale) since
    exact .finish (Lane.not_uses_put others nofun nofun) rfl inserted mark
  | abandon _ =>
    have skipped : Order policy resource (⟨lane, some (.abandon id), .silent,
        lane.put (some (slot.freedBy id)) id (some .leaving)⟩ :: past) settled pending
        (slot.freedBy id).entry := by
      rw [Slot.entry_freedBy]
      exact order.skip rfl
    rw [← Slot.invalidated_freedBy slot id] at mark
    exact .finish (Lane.not_uses_put others nofun nofun) rfl skipped mark
  | _ => rcases uses with same | same <;> cases same

section Busy

variable {id : TaskId} {slot : Slot} {start : Nat} {settled pending : List Call}
  (uses : lane.Uses id) (begins : begun id past = some start)
  (order : Order policy resource past settled pending slot.entry)
  (since : ∀ call ∈ pending, start ≤ call.ended) (mark : slot.invalidated = true ↔ pending ≠ [])
include uses begins order since mark

/-- What other tasks do leaves the order as it is, and the task in its place. -/
theorem Linear.busy_of_another {other : TaskId} {taken : Step} {phase : Option Phase}
    (different : other ≠ id) (own : taken.task? = some other)
    (silent : call? past ⟨lane, some taken, event, lane.put (some slot) other phase⟩ = none) :
    Linear policy resource
      (⟨lane, some taken, event, lane.put (some slot) other phase⟩ :: past)
      (lane.put (some slot) other phase) := by
  have another : taken.task? ≠ some id := by
    rw [own]
    intro same
    exact different (Option.some.inj same)
  have stays : begun id (⟨lane, some taken, event, lane.put (some slot) other phase⟩ :: past) =
      some start := by
    rw [begun, lastStep?_cons_of_ne another]
    exact begins
  exact .busy ((Lane.uses_put_of_ne different).2 uses) rfl stays (order.skip silent) since mark

omit mark in
/-- An invalidation stands behind the task in the order. -/
theorem Linear.busy_of_invalidation :
    Linear policy resource
      (⟨lane, some (.invalidate resource), .silent, ⟨some slot.marked, lane.phases⟩⟩ :: past)
      ⟨some slot.marked, lane.phases⟩ := by
  have deferred : Order policy resource
      (⟨lane, some (.invalidate resource), .silent, ⟨some slot.marked, lane.phases⟩⟩ :: past)
      settled (pending ++ [⟨past.length, past.length, .invalidate, none⟩]) slot.entry :=
    order.defer rfl ⟨rfl, rfl⟩
  refine .busy uses rfl ((begun_cons_of_none rfl).trans begins) deferred ?_ ?_
  · intro call member
    rcases List.mem_append.1 member with inside | last
    · exact since call inside
    · rw [List.mem_singleton.1 last]
      exact Nat.le_of_lt (begun_lt_length begins)
  · exact ⟨fun _ => List.append_ne_nil_of_right_ne_nil _ (List.cons_ne_nil _ _), fun _ => rfl⟩

theorem Linear.further_of_busy_move {mover : TaskId} {taken : Step} {before phase : Phase}
    {behind : Slot} (record : LaneRecorded policy resource past lane)
    (found : lane.phases mover = some before) (tracked : lane.slot = some slot)
    (move : Move policy mover resource taken event before slot phase behind) :
    Linear policy resource
      (⟨lane, some taken, event, lane.put (some behind) mover (some phase)⟩ :: past)
      (lane.put (some behind) mover (some phase)) := by
  by_cases same : mover = id
  · subst same
    have usesBefore : before = .swept ∨ before = .loading :=
      uses.imp (fun swept => Option.some.inj (found.symm.trans swept))
        fun loads => Option.some.inj (found.symm.trans loads)
    exact .further_of_own_move record found usesBefore tracked move begins order since mark
  · obtain ⟨user, holds, locks⟩ : ∃ user, lane.phases id = some user ∧ user.hasLock = true := by
      rcases uses with swept | loads
      · exact ⟨_, swept, rfl⟩
      · exact ⟨_, loads, rfl⟩
    have owner := record.sound.locked holds locks tracked
    have unlocked : before.hasLock ≠ true := by
      intro locked
      exact same (record.sound.lock_exclusive found holds locked locks)
    have silent : call? past
        ⟨lane, some taken, event, lane.put (some behind) mover (some phase)⟩ = none :=
      move.call?_eq_none unlocked
    obtain rfl : behind = slot :=
      move.behind_eq_of_locked (fun locked => absurd locked unlocked) same owner
    exact .busy_of_another uses begins order since mark same move.task? silent

theorem Linear.further_of_busy (record : LaneRecorded policy resource past lane)
    (here : LaneChange policy resource lane step event next) (tracked : lane.slot = some slot) :
    Linear policy resource (⟨lane, step, event, next⟩ :: past) next := by
  have unidle : ¬ lane.Idle := by
    intro idle
    rcases uses with found | found <;> cases (idle id).symm.trans found
  have apart : ∀ {other : TaskId} {phase : Option Phase}, lane.phases other = phase →
      phase ≠ some .swept → phase ≠ some .loading → other ≠ id := by
    rintro other phase found notSwept notLoading rfl
    rcases uses with same | same
    · exact notSwept (found.symm.trans same)
    · exact notLoading (found.symm.trans same)
  cases here with
  | elsewhere => exact .busy uses tracked begins (order.skip call?_elsewhere) since mark
  | evicted _ idle => exact absurd idle unidle
  | join new tracks =>
    cases tracked.symm.trans tracks
    exact .busy_of_another uses begins order since mark (apart new nofun nofun) rfl rfl
  | opening _ untracked => cases untracked.symm.trans tracked
  | joinToLook new tracks =>
    cases tracked.symm.trans tracks
    exact .busy_of_another uses begins order since mark (apart new nofun nofun) rfl rfl
  | lookAtNothing _ untracked => cases untracked.symm.trans tracked
  | move found tracks move =>
    cases tracked.symm.trans tracks
    exact .further_of_busy_move uses begins order since mark record found tracked move
  | leave found =>
    rw [tracked]
    exact .busy_of_another uses begins order since mark (apart found nofun nofun) rfl rfl
  | invalidateNothing untracked => cases untracked.symm.trans tracked
  | invalidateIdle _ idle => exact absurd idle unidle
  | invalidateHeld tracks _ =>
    cases tracked.symm.trans tracks
    exact .busy_of_invalidation uses begins order since

end Busy

end Steps

theorem LaneRecorded.linear {policy : Policy} {resource : String} {past : Course} {lane : Lane}
    (record : LaneRecorded policy resource past lane) : Linear policy resource past lane := by
  induction record with
  | nothing => exact .free (by simp [Lane.Uses, Lane.empty]) .nothing
  | further record here ih =>
    cases ih with
    | free unused order => exact .further_of_free order record here unused
    | busy uses tracked begins order since mark =>
      exact .further_of_busy uses begins order since mark record here tracked

/-- The order of the calls, whether or not a task uses the entry. -/
theorem Linear.exists_order {policy : Policy} {resource : String} {past : Course} {lane : Lane}
    (linear : Linear policy resource past lane) :
    ∃ order entry, Order policy resource past order [] entry := by
  cases linear with
  | free _ order => exact ⟨_, _, order⟩
  | busy _ _ _ order _ _ => exact ⟨_, _, order.merge⟩

/-! ## No call is forgotten -/

theorem LaneRecorded.exists_call?_of_answers {policy : Policy} {resource : String} {past : Course}
    {lane next : Lane} {step : Option Step} {event : Event}
    (record : LaneRecorded policy resource past lane)
    (here : LaneChange policy resource lane step event next)
    (answers : Answers ⟨lane, step, event, next⟩) :
    ∃ call, call? past ⟨lane, step, event, next⟩ = some call := by
  rcases answers with told | ⟨other, invalidates⟩ | evicts
  · cases here with
    | lookAtNothing _ _ => exact ⟨_, rfl⟩
    | move found tracked move =>
      obtain ⟨start, begins, -⟩ := record.exists_begun found
      cases move with
      | hit _ => simp [call?, begins]
      | settle =>
        obtain ⟨instant, reading, decides, -⟩ := record.exists_decided found tracked
        simp [call?, begins, decides]
      | look => simp [call?, begins]
      | _ => cases told
    | _ => cases told
  · cases invalidates
    exact ⟨_, rfl⟩
  · cases evicts.1
    exact ⟨_, if_pos evicts⟩

/-- Whenever a caller is told something, the resource is invalidated or its slot is evicted, this is
one of the calls. -/
theorem LaneRecorded.exists_call_of_answers {policy : Policy} {resource : String} {past : Course}
    {lane : Lane} (record : LaneRecorded policy resource past lane) {instant : Nat}
    (occurs : Occurs Answers instant past) : ∃ call ∈ calls past, call.ended = instant := by
  induction record with
  | nothing => exact occurs.elim
  | @further past lane next step event record here ih =>
    rcases occurs with ⟨rfl, answers⟩ | before
    · obtain ⟨call, answered⟩ := record.exists_call?_of_answers here answers
      refine ⟨call, List.mem_append_left _ ?_, (bounds_of_call? answered).2⟩
      rw [answered]
      exact List.mem_singleton_self call
    · obtain ⟨call, member, same⟩ := ih before
      exact ⟨call, List.mem_append_right _ member, same⟩

/-- **The calls on a resource have an order.** It respects real time: no call stands before one that
was answered before it began. And when the deeds of the calls are done in this order, one at a time,
by a refresher that starts with nothing, each caller is told the same as in the run, and the same
calls load. Every answer of the run on the resource, every invalidation and every eviction is the
end of one of the calls. -/
theorem linearizable {policy : Policy} {past : Past} {state : State} (resource : String)
    (spare : Int64) (record : Chronicle policy past state) :
    (∀ instant, Occurs Answers instant (course resource past) →
      ∃ call ∈ calls (course resource past), call.ended = instant) ∧
    ∃ order : List Call, order.Perm (calls (course resource past)) ∧
      (order.Pairwise fun earlier later => ¬ later.ended < earlier.begun) ∧
      State.initial.serially policy resource spare (order.map Call.deed) =
        order.map Call.outcome := by
  have laneRecord := laneRecorded_course record resource
  obtain ⟨order, entry, ordered⟩ := laneRecord.linear.exists_order
  have perm := ordered.perm
  have respects := ordered.respects
  rw [List.append_nil] at perm respects
  exact ⟨fun instant occurs => laneRecord.exists_call_of_answers occurs, order, perm, respects,
    ordered.explained.serially spare .initial⟩

/-- The first task loads while another one waits and a third one looks; the resource is invalidated,
and only then is the load settled. The first task stands before the invalidation, the others behind
it. -/
def crossed : List Step :=
  [.beginGet 1 "r", .acquire 1, .sweep 1, .decide 1 0, .beginGet 2 "r", .beginLook 3 "r",
    .invalidate "r", .settle 1 (.answered (.ok [sampleToken 1001 sampleExpiry_pos])) 1, .leave 1,
    .acquire 3, .look 3 2, .leave 3, .acquire 2, .sweep 2, .decide 2 3,
    .settle 2 .timedOut 4, .leave 2]

theorem linearizable_crossed :
    Chronicle Policy.standard (historyOf crossed).1 (historyOf crossed).2 ∧
      (calls (course "r" (historyOf crossed).1)).length = 4 ∧
      ∃ order : List Call, order.Perm (calls (course "r" (historyOf crossed).1)) ∧
        (order.Pairwise fun earlier later => ¬ later.ended < earlier.begun) ∧
        State.initial.serially Policy.standard "r" 0 (order.map Call.deed) =
          order.map Call.outcome :=
  have record := chronicle_historyOf crossed
  ⟨record, by decide +kernel, (linearizable "r" 0 record).2⟩

end StorageBroker.Refresher
