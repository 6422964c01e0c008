import Mathlib.Data.Finset.Card
import StorageBroker.Proofs.Refresher.Origin

/-!
# How many resources are tracked

Only a new resource makes a refresher track more, and then idle slots are evicted until the capacity
is met or every slot that is left is in use (`Change.size_le_or`). Different resources have different
slots, so in the second case there are no more resources than slots held by tasks
(`Sound.size_le_card_heldSlots`). Over a whole run the number of tracked resources is bounded by the
capacity or by the greatest number of slots that were held at a time (`size_bounded`).
-/

set_option autoImplicit false

namespace StorageBroker.Refresher

/-! ## Sizes -/

section Sizes

variable {idle : SlotId → Bool} {capacity : Nat} {tracked : Keyed String SlotId}
  {resource : String} {slot : SlotId}

theorem size_erase_le (resource : String) : (tracked.erase resource).size ≤ tracked.size :=
  List.length_filter_le _ _

/-- A resource that becomes the one used last is counted once. -/
theorem size_touch_le (resource : String) : (tracked.touch resource).size ≤ tracked.size := by
  unfold Keyed.touch
  split
  · next slot found =>
    have member : resource ∈ tracked.keys :=
      List.mem_map_of_mem ((Keyed.get?_eq_some_iff tracked resource slot).1 found)
    have smaller := size_erase_lt member
    exact smaller
  · exact Nat.le_refl _

/-- Where nothing is chosen for eviction, every slot is in use. -/
theorem busy_of_victim?_eq_none (nothing : victim? idle tracked = none)
    (found : tracked.get? resource = some slot) : idle slot = false := by
  have none := List.find?_eq_none.1 (Option.map_eq_none_iff.1 nothing)
  have member := (Keyed.get?_eq_some_iff tracked resource slot).1 found
  exact Bool.eq_false_iff.2 (none (resource, slot) (List.mem_reverse.2 member))

/-- **An eviction ends when the capacity is met or every slot that is left is in use.** -/
theorem size_evictIdle_le_or :
    (evictIdle idle capacity tracked).size ≤ capacity ∨
      ∀ resource slot, (evictIdle idle capacity tracked).get? resource = some slot →
        idle slot = false := by
  fun_induction evictIdle idle capacity tracked with
  | case1 tracked above victim chosen ih => exact ih
  | case2 tracked above nothing =>
    right
    intro resource slot found
    exact busy_of_victim?_eq_none nothing found
  | case3 tracked within => exact .inl (Nat.not_lt.1 within)

end Sizes

/-! ## Slots in use -/

namespace State

/-- The slots that tasks hold. -/
def heldSlots (state : State) : Finset SlotId :=
  (state.tasks.entries.map fun task => task.2.slot).toFinset

/-- Every tracked slot is in use. -/
def AllBusy (state : State) : Prop :=
  ∀ ⦃resource slot⦄, state.tracked.get? resource = some slot → state.isIdle slot = false

variable {state : State} {slot : SlotId}

theorem mem_heldSlots_of_busy (busy : state.isIdle slot = false) : slot ∈ state.heldSlots := by
  obtain ⟨id, task, found, rfl⟩ := exists_holder busy
  rw [heldSlots, List.mem_toFinset]
  exact List.mem_map_of_mem (f := fun entry => entry.2.slot)
    ((Keyed.get?_eq_some_iff state.tasks id task).1 found)

/-- No task holds two slots. -/
theorem card_heldSlots_le (state : State) : state.heldSlots.card ≤ state.tasks.size := by
  refine Nat.le_trans (List.toFinset_card_le _) ?_
  rw [List.length_map, Keyed.size]

end State

section Bounds

variable {policy : Policy} {state next : State} {step : Step} {event : Event} {past : Past}
  {bound : Nat}

/-- The slots of the tracked resources are distinct. -/
theorem Sound.nodup_slots (sound : Sound state) :
    (state.tracked.entries.map Prod.snd).Nodup := by
  refine List.Nodup.map_on ?_ (List.Nodup.of_map Prod.fst state.tracked.distinct)
  rintro ⟨first, slot⟩ one ⟨second, other⟩ two (rfl : slot = other)
  have same := sound.apart ((Keyed.get?_eq_some_iff _ first slot).2 one)
    ((Keyed.get?_eq_some_iff _ second slot).2 two)
  rw [same]

/-- Where every tracked slot is in use, no more resources are tracked than slots are held. -/
theorem Sound.size_le_card_heldSlots (sound : Sound state) (busy : state.AllBusy) :
    state.size ≤ state.heldSlots.card := by
  have count : state.size = (state.tracked.entries.map Prod.snd).toFinset.card := by
    rw [List.toFinset_card_of_nodup sound.nodup_slots, List.length_map]
    rfl
  rw [count]
  refine Finset.card_le_card ?_
  intro slot member
  obtain ⟨⟨resource, same⟩, inside, rfl⟩ := List.mem_map.1 (List.mem_toFinset.1 member)
  exact State.mem_heldSlots_of_busy (busy ((Keyed.get?_eq_some_iff _ resource same).2 inside))

/-- A new resource leaves the capacity met or every tracked slot in use. -/
theorem State.size_openSlot_le_or (state : State) (capacity : Nat) (id : TaskId)
    (resource : String) :
    (state.openSlot capacity id resource).size ≤ capacity ∨
      (state.openSlot capacity id resource).AllBusy :=
  size_evictIdle_le_or

/-- Behind a step no more resources are tracked than before, unless the step has made room for a new
one as far as there were idle slots. -/
theorem Change.size_le_or (change : Change policy state step event next) :
    next.size ≤ state.size ∨ next.size ≤ policy.config.capacity ∨ next.AllBusy := by
  cases change with
  | join _ _ => exact .inl (size_touch_le _)
  | @opening id resource _ _ =>
    exact .inr (state.size_openSlot_le_or policy.config.capacity id resource)
  | invalidateIdle _ _ => exact .inl (size_erase_le _)
  | _ => exact .inl (Nat.le_refl _)

/-- Along a run the number of tracked resources stays within the bound. -/
theorem Chronicle.size_le (record : Chronicle policy past state)
    (held : ∀ moment ∈ past, moment.after.heldSlots.card ≤ bound) :
    state.size ≤ max policy.config.capacity bound := by
  induction record with
  | nothing => exact Nat.zero_le _
  | @further past state reached taken event record here ih =>
    obtain ⟨heldNow, heldBefore⟩ := List.forall_mem_cons.1 held
    rcases (change_of_step here).size_le_or with less | within | busy
    · exact Nat.le_trans less (ih heldBefore)
    · exact Nat.le_trans within (Nat.le_max_left _ _)
    · have sound := Sound.of_chronicle (record.further here)
      have few := sound.size_le_card_heldSlots busy
      exact Nat.le_trans few (Nat.le_trans heldNow (Nat.le_max_right _ _))

end Bounds

/-- **The number of tracked resources is bounded.** Take a refresher and any run of it.

* If no more than a number of slots are held by tasks at any time of the run, then no more resources
  are tracked than this number or the capacity, whichever is greater.
* If no two calls overlap, then no more resources are tracked than the capacity.
* When a task that gets a credential has begun with a resource that was not tracked, the capacity is
  met, or every tracked slot is in use. -/
theorem size_bounded (policy : Policy) :
    (∀ (past : Past) (state : State), Chronicle policy past state →
      (∀ bound, (∀ moment ∈ past, moment.after.heldSlots.card ≤ bound) →
        state.size ≤ max policy.config.capacity bound) ∧
      ((∀ moment ∈ past, moment.after.tasks.size ≤ 1) → state.size ≤ policy.config.capacity)) ∧
    (∀ (state next : State) (event : Event) (id : TaskId) (resource : String),
      state.step policy (.beginGet id resource) = some (next, event) →
      state.tracked.get? resource = none →
        next.size ≤ policy.config.capacity ∨ next.AllBusy) := by
  refine ⟨?_, ?_⟩
  · intro past state record
    refine ⟨fun bound held => record.size_le held, ?_⟩
    intro single
    have positive : 1 ≤ policy.config.capacity := Nat.one_le_iff_ne_zero.2 policy.valid.2.1
    have bounded := record.size_le fun moment member =>
      Nat.le_trans moment.after.card_heldSlots_le (single moment member)
    rwa [Nat.max_eq_left positive] at bounded
  · intro state next event id resource taken untracked
    cases change_of_step taken with
    | join _ tracked => cases untracked.symm.trans tracked
    | opening _ _ => exact state.size_openSlot_le_or policy.config.capacity id resource
    | move _ move => cases move

/-- Two resources are in use at a time, where the capacity is one. Then one of them is idle, but no new
resource has come to take its place. -/
def crammed : List Step :=
  [.beginGet 1 "a", .beginGet 2 "b", .beginGet 3 "b", .abandon 1, .leave 1]

/-- The history of `crammed`, with the state that is reached. -/
def crammedHistory : Past × State := replay (State.step Policy.narrow) State.initial crammed

/-- The history of two resources that are in use one after the other, with the state that is
reached. -/
def consecutiveHistory : Past × State :=
  replay (State.step Policy.narrow) State.initial
    [.beginGet 1 "a", .acquire 1, .sweep 1, .decide 1 0, .abandon 1, .leave 1,
      .beginGet 1 "b", .abandon 1, .leave 1, .beginGet 2 "a"]

theorem size_bounded_crammed :
    Chronicle Policy.narrow crammedHistory.1 crammedHistory.2 ∧
      crammedHistory.2.size ≤ max 1 2 ∧ consecutiveHistory.2.size ≤ 1 ∧
      ∃ next, crammedHistory.2.step Policy.narrow (.beginGet 1 "c") = some (next, .silent) ∧
        (next.size ≤ 1 ∨ next.AllBusy) := by
  obtain ⟨runs, begins⟩ := size_bounded Policy.narrow
  have record : Chronicle Policy.narrow crammedHistory.1 crammedHistory.2 :=
    recorded_replay crammed
  have single : Chronicle Policy.narrow consecutiveHistory.1 consecutiveHistory.2 :=
    recorded_replay _
  have begun : (crammedHistory.2.step Policy.narrow (.beginGet 1 "c")).map Prod.snd =
      some .silent := by decide +kernel
  obtain ⟨⟨next, event⟩, taken, same⟩ := Option.map_eq_some_iff.1 begun
  cases same
  exact ⟨record, (runs _ _ record).1 2 (by decide +kernel),
    (runs _ _ single).2 (by decide +kernel), next, taken,
    begins _ next .silent 1 "c" taken (by decide +kernel)⟩

end StorageBroker.Refresher
