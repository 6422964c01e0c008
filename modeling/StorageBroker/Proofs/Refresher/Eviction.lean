import StorageBroker.Proofs.Keyed
import StorageBroker.Proofs.Refresher.Origin

/-!
# Which slots an eviction takes out

When room is made for a new resource, idle slots go one by one, always the one that was used least
recently, until the capacity is met or nothing idle is left. `EvictionRounds` lists these rounds;
they come to an end, and their number is known beforehand (`rounds_evictIdle`). What they take out
together is told by one place in the order of use: behind it every idle slot goes, and before it none
(`Sheds`, `EvictionRounds.sheds`). Two evictions in a row are one (`Sheds.trans`), so it does not
matter that each round looks at the order anew.

A task that begins therefore leaves a state that is known exactly, whatever was tracked and whichever
slots were idle (`slots_are_taken_exactly`).
-/

set_option autoImplicit false

namespace StorageBroker.Refresher

/-! ## Shedding idle entries -/

section Sheds

variable {idle : SlotId → Bool} {count more : Nat}
  {before middle after : List (String × SlotId)}

theorem filter_of_busy {entries : List (String × SlotId)}
    (busy : ∀ entry ∈ entries, idle entry.2 = false) :
    entries.filter (fun entry => !idle entry.2) = entries := by
  apply List.filter_eq_self.2
  intro entry member
  simp [busy entry member]

theorem countP_of_busy {entries : List (String × SlotId)}
    (busy : ∀ entry ∈ entries, idle entry.2 = false) :
    entries.countP (fun entry => idle entry.2) = 0 := by
  apply List.countP_eq_zero.2
  intro entry member
  simp [busy entry member]

/-- So many entries are shed: the least recently used ones of those whose slots are idle. Behind some
place in the order of use all idle entries go, and before it none. -/
def Sheds (idle : SlotId → Bool) (count : Nat) (before after : List (String × SlotId)) : Prop :=
  ∃ recent old, before = recent ++ old ∧
    after = recent ++ old.filter (fun entry => !idle entry.2) ∧
    old.countP (fun entry => idle entry.2) = count

namespace Sheds

theorem nothing (entries : List (String × SlotId)) : Sheds idle 0 entries entries :=
  ⟨entries, [], by simp, by simp, rfl⟩

/-- The last idle entry is shed first. -/
theorem last {front back : List (String × SlotId)} {entry : String × SlotId}
    (isIdle : idle entry.2 = true) (busy : ∀ other ∈ back, idle other.2 = false) :
    Sheds idle 1 (front ++ entry :: back) (front ++ back) := by
  refine ⟨front, entry :: back, rfl, ?_, ?_⟩
  · simp [isIdle, filter_of_busy busy]
  · simp [isIdle, countP_of_busy busy]

/-- What is shed bit by bit is shed. -/
theorem trans (first : Sheds idle count before middle) (second : Sheds idle more middle after) :
    Sheds idle (count + more) before after := by
  obtain ⟨recent, old, rfl, rfl, rfl⟩ := first
  obtain ⟨newer, older, same, rfl, rfl⟩ := second
  rcases List.append_eq_append_iff.1 same with ⟨between, rfl, rest⟩ | ⟨between, rfl, rest⟩
  · have busy : ∀ entry ∈ older, idle entry.2 = false := by
      intro entry member
      have left : entry ∈ old.filter fun entry => !idle entry.2 := by
        rw [rest]
        exact List.mem_append_right _ member
      simpa using (List.mem_filter.1 left).2
    refine ⟨recent, old, rfl, ?_, ?_⟩
    · rw [filter_of_busy busy, List.append_assoc, rest]
    · rw [countP_of_busy busy, Nat.add_zero]
  · have left : (old.filter fun entry => !idle entry.2).countP (fun entry => idle entry.2) = 0 := by
      apply countP_of_busy
      intro entry member
      simpa using (List.mem_filter.1 member).2
    refine ⟨newer, between ++ old, by simp, ?_, ?_⟩
    · simp [rest]
    · rw [rest, List.countP_append, List.countP_append, left]
      omega


/-- Everything that is in use stays. -/
theorem mem_of_busy {entry : String × SlotId} (sheds : Sheds idle count before after)
    (member : entry ∈ before) (busy : idle entry.2 = false) : entry ∈ after := by
  obtain ⟨recent, old, rfl, rfl, -⟩ := sheds
  rcases List.mem_append.1 member with front | back
  · exact List.mem_append_left _ front
  · apply List.mem_append_right
    apply List.mem_filter.2
    exact ⟨back, by simp [busy]⟩

/-- What stays keeps its order. -/
theorem sublist (sheds : Sheds idle count before after) : after.Sublist before := by
  obtain ⟨recent, old, rfl, rfl, -⟩ := sheds
  exact List.filter_sublist.append_left recent

/-- What goes was used less recently than any idle entry that stays. -/
theorem older {gone kept : String × SlotId} (sheds : Sheds idle count before after)
    (was : gone ∈ before) (not : gone ∉ after) (stays : kept ∈ after)
    (isIdle : idle kept.2 = true) : [kept, gone].Sublist before := by
  obtain ⟨recent, old, rfl, rfl, -⟩ := sheds
  rw [List.mem_append, not_or] at not
  have back : gone ∈ old := (List.mem_append.1 was).resolve_left not.1
  have front : kept ∈ recent := by
    rcases List.mem_append.1 stays with front | left
    · exact front
    · have busy := (List.mem_filter.1 left).2
      rw [isIdle] at busy
      cases busy
  exact (List.singleton_sublist.2 front).append (List.singleton_sublist.2 back)

/-- It matters only which of the entries are idle. -/
theorem congr {other : SlotId → Bool} (sheds : Sheds idle count before after)
    (agree : ∀ entry ∈ before, idle entry.2 = other entry.2) : Sheds other count before after := by
  obtain ⟨recent, old, rfl, rfl, rfl⟩ := sheds
  have same : ∀ entry ∈ old, idle entry.2 = other entry.2 := by
    intro entry member
    exact agree entry (List.mem_append_right _ member)
  refine ⟨recent, old, rfl, ?_, ?_⟩
  · congr 1
    apply List.filter_congr
    intro entry member
    rw [same entry member]
  · apply List.countP_congr
    intro entry member
    rw [same entry member]

/-- An entry in use in front of all others stays there. -/
theorem of_cons {entry : String × SlotId} (busy : idle entry.2 = false)
    (sheds : Sheds idle count (entry :: before) after) :
    ∃ rest, after = entry :: rest ∧ Sheds idle count before rest := by
  obtain ⟨recent, old, same, rfl, rfl⟩ := sheds
  cases recent with
  | nil =>
    rw [List.nil_append] at same
    subst same
    refine ⟨before.filter fun other => !idle other.2, ?_, [], before, rfl, rfl, ?_⟩
    · simp [busy]
    · simp [busy]
  | cons first recent =>
    obtain ⟨rfl, rfl⟩ := List.cons.inj same
    exact ⟨_, rfl, recent, old, rfl, rfl, rfl⟩

end Sheds

end Sheds

/-! ## The rounds of an eviction -/

/-- The rounds of an eviction. Where the capacity is exceeded and some slot is idle, the one that was
used least recently is taken out, and there is another round; else the eviction is over. -/
inductive EvictionRounds (idle : SlotId → Bool) (capacity : Nat) :
    Nat → Keyed String SlotId → Keyed String SlotId → Prop where
  | within {tracked : Keyed String SlotId} (fits : tracked.size ≤ capacity) :
      EvictionRounds idle capacity 0 tracked tracked
  | busy {tracked : Keyed String SlotId} (above : capacity < tracked.size)
      (nothing : victim? idle tracked = none) : EvictionRounds idle capacity 0 tracked tracked
  | again {rounds : Nat} {tracked last : Keyed String SlotId} {resource : String}
      (above : capacity < tracked.size) (chosen : victim? idle tracked = some resource)
      (further : EvictionRounds idle capacity rounds (tracked.erase resource) last) :
      EvictionRounds idle capacity (rounds + 1) tracked last

section Rounds

variable {idle : SlotId → Bool} {capacity rounds : Nat} {tracked last : Keyed String SlotId}
  {resource : String}

theorem exists_rounds (idle : SlotId → Bool) (capacity : Nat) (tracked : Keyed String SlotId) :
    ∃ rounds, EvictionRounds idle capacity rounds tracked (evictIdle idle capacity tracked) := by
  fun_induction evictIdle idle capacity tracked with
  | case1 tracked above resource chosen ih =>
    obtain ⟨rounds, further⟩ := ih
    exact ⟨rounds + 1, .again above chosen further⟩
  | case2 tracked above nothing => exact ⟨0, .busy above nothing⟩
  | case3 tracked fits => exact ⟨0, .within (Nat.not_lt.1 fits)⟩

/-- The chosen resource stands behind all others whose slots are idle. -/
theorem exists_stand_of_victim? (chosen : victim? idle tracked = some resource) :
    ∃ front slot back, tracked.entries = front ++ (resource, slot) :: back ∧ idle slot = true ∧
      ∀ entry ∈ back, idle entry.2 = false := by
  obtain ⟨⟨_, slot⟩, found, rfl⟩ := Option.map_eq_some_iff.1 chosen
  obtain ⟨isIdle, behind, before, same, busy⟩ := List.find?_eq_some_iff_append.1 found
  refine ⟨before.reverse, slot, behind.reverse, ?_, isIdle, ?_⟩
  · rw [← List.reverse_reverse tracked.entries, same]
    simp
  · intro entry member
    simpa using busy entry (List.mem_reverse.1 member)

/-- Where nothing is chosen, nothing is idle. -/
theorem countP_of_victim?_eq_none (nothing : victim? idle tracked = none) :
    tracked.entries.countP (fun entry => idle entry.2) = 0 := by
  apply List.countP_eq_zero.2
  intro entry member isIdle
  have none := List.find?_eq_none.1 (Option.map_eq_none_iff.1 nothing)
  exact none entry (List.mem_reverse.2 member) isIdle

/-- **The rounds shed as many entries as there are rounds.** -/
theorem EvictionRounds.sheds (evicts : EvictionRounds idle capacity rounds tracked last) :
    Sheds idle rounds tracked.entries last.entries := by
  induction evicts with
  | within fits => exact Sheds.nothing _
  | busy above nothing => exact Sheds.nothing _
  | @again rounds tracked last resource above chosen further ih =>
    obtain ⟨front, slot, back, stands, isIdle, busy⟩ := exists_stand_of_victim? chosen
    rw [Keyed.entries_erase_of_append stands] at ih
    rw [stands, Nat.add_comm]
    exact (Sheds.last isIdle busy).trans ih

/-- **There are as many rounds as entries beyond the capacity**, or as many as idle ones if these are
fewer. -/
theorem EvictionRounds.rounds_eq (evicts : EvictionRounds idle capacity rounds tracked last) :
    rounds = min (tracked.entries.countP fun entry => idle entry.2) (tracked.size - capacity) := by
  induction evicts with
  | within fits => omega
  | busy above nothing =>
    rw [countP_of_victim?_eq_none nothing]
    omega
  | @again rounds tracked last resource above chosen further ih =>
    obtain ⟨front, slot, back, stands, isIdle, busy⟩ := exists_stand_of_victim? chosen
    have less := Keyed.entries_erase_of_append stands
    have size : tracked.size = (tracked.erase resource).size + 1 := by
      rw [Keyed.size, Keyed.size, less, stands, List.length_append, List.length_cons,
        List.length_append, Nat.add_assoc]
    have count : tracked.entries.countP (fun entry => idle entry.2) =
        (tracked.erase resource).entries.countP (fun entry => idle entry.2) + 1 := by
      rw [less, stands, List.countP_append, List.countP_append, List.countP_cons, if_pos isIdle,
        Nat.add_assoc]
    rw [ih, count, size]
    omega

/-- **Every eviction comes to its end**, after as many rounds as told. -/
theorem rounds_evictIdle (idle : SlotId → Bool) (capacity : Nat) (tracked : Keyed String SlotId) :
    EvictionRounds idle capacity
      (min (tracked.entries.countP fun entry => idle entry.2) (tracked.size - capacity)) tracked
      (evictIdle idle capacity tracked) := by
  obtain ⟨rounds, evicts⟩ := exists_rounds idle capacity tracked
  rw [← evicts.rounds_eq]
  exact evicts

end Rounds

/-! ## Taking a slot -/

/-- How many resources are tracked whose slots are idle. -/
def State.idleCount (state : State) : Nat :=
  state.tracked.entries.countP fun entry => state.isIdle entry.2

/-- A task and the next slot are new to a state. -/
structure State.NewTo (state : State) (id : TaskId) : Prop where
  task : state.tasks.get? id = none
  slot : ∀ resource, state.tracked.get? resource ≠ some state.nextSlot

/-- A task has taken the slot of a resource that was tracked: nothing is taken out, and the resource
comes to the front. -/
structure Joined (state : State) (id : TaskId) (resource : String) (slot : SlotId)
    (next : State) : Prop where
  given : next.tasks.get? id = some ⟨resource, slot, .waiting⟩
  slots : next.slots = state.slots
  moved : ∃ before after, state.tracked.entries = before ++ (resource, slot) :: after ∧
    next.tracked.entries = (resource, slot) :: (before ++ after)

/-- A task has taken a new slot for a resource that was not tracked, and `survivors` are those of the
other resources that are still tracked. -/
structure Opened (state : State) (capacity : Nat) (id : TaskId) (resource : String)
    (survivors : List (String × SlotId)) (next : State) : Prop where
  given : next.tasks.get? id = some ⟨resource, state.nextSlot, .waiting⟩
  slots : ∀ slot, next.slots slot = if slot = state.nextSlot then Slot.fresh else state.slots slot
  /-- The new slot stands in front. -/
  tracked : next.tracked.entries = (resource, state.nextSlot) :: survivors
  /-- The least recently used idle ones are gone, as many as are too many. -/
  sheds : Sheds state.isIdle (min state.idleCount (state.size + 1 - capacity))
    state.tracked.entries survivors
  busy : ∀ entry ∈ state.tracked.entries, state.isIdle entry.2 = false → entry ∈ survivors
  order : survivors.Sublist state.tracked.entries
  older : ∀ gone ∈ state.tracked.entries, gone ∉ survivors → ∀ kept ∈ survivors,
    state.isIdle kept.2 = true → [kept, gone].Sublist state.tracked.entries
  /-- The eviction is over after as many rounds. -/
  rounds : EvictionRounds next.isIdle capacity (min state.idleCount (state.size + 1 - capacity))
    (state.tracked.insertFirst resource state.nextSlot) next.tracked

section Taking

variable {policy : Policy} {state : State} {capacity : Nat} {id : TaskId} {resource : String}
  {slot : SlotId} {past : Past}

/-- A slot is idle while a new task holds one if it was idle before and is another one. -/
theorem State.isIdle_setTask {task : Task} (new : state.tasks.get? id = none) :
    (state.setTask id task).isIdle slot = (state.isIdle slot && decide (task.slot ≠ slot)) := by
  have unknown : id ∉ state.tasks.keys := (lookup_eq_none_iff id state.tasks.entries).1 new
  rw [State.isIdle, State.setTask, Keyed.entries_insert unknown, List.all_append]
  simp [State.isIdle]

/-- While a slot is opened, it is in use, and all others are as before. -/
theorem State.isIdle_openSlot (new : state.tasks.get? id = none) :
    (state.openSlot capacity id resource).isIdle slot =
      (state.isIdle slot && decide (state.nextSlot ≠ slot)) :=
  isIdle_setTask new

theorem joined_takeSlot (tracked : state.tracked.get? resource = some slot) :
    Joined state id resource slot (state.takeSlot capacity id resource) := by
  have joins : state.takeSlot capacity id resource = state.joinSlot id resource slot := by
    rw [State.takeSlot, tracked]
  have member := (Keyed.get?_eq_some_iff state.tracked resource slot).1 tracked
  obtain ⟨before, after, stands⟩ := List.append_of_mem member
  rw [joins]
  exact ⟨by simp, rfl, before, after, stands, Keyed.entries_touch_of_append stands⟩

theorem opened_takeSlot (untracked : state.tracked.get? resource = none) (new : state.NewTo id) :
    ∃ survivors, Opened state capacity id resource survivors
      (state.takeSlot capacity id resource) := by
  have opens : state.takeSlot capacity id resource = state.openSlot capacity id resource := by
    rw [State.takeSlot, untracked]
  have entries := Keyed.entries_insertFirst_of_new untracked state.nextSlot
  have busy : (state.openSlot capacity id resource).isIdle state.nextSlot = false := by
    rw [State.isIdle_openSlot new.task]
    simp
  have agree : ∀ entry ∈ state.tracked.entries,
      (state.openSlot capacity id resource).isIdle entry.2 = state.isIdle entry.2 := by
    intro entry member
    have other : state.nextSlot ≠ entry.2 := by
      intro same
      apply new.slot entry.1
      rw [same]
      exact (Keyed.get?_eq_some_iff state.tracked entry.1 entry.2).2 member
    rw [State.isIdle_openSlot new.task]
    simp [other]
  have evicts := rounds_evictIdle (state.openSlot capacity id resource).isIdle capacity
    (state.tracked.insertFirst resource state.nextSlot)
  have count : (state.tracked.insertFirst resource state.nextSlot).entries.countP
      (fun entry => (state.openSlot capacity id resource).isIdle entry.2) = state.idleCount := by
    rw [entries, List.countP_cons, busy, if_neg Bool.false_ne_true, State.idleCount]
    apply List.countP_congr
    intro entry member
    rw [agree entry member]
  have size : (state.tracked.insertFirst resource state.nextSlot).size = state.size + 1 := by
    rw [Keyed.size, entries, List.length_cons]
    rfl
  rw [count, size] at evicts
  have shed := evicts.sheds
  rw [entries] at shed
  obtain ⟨survivors, tracked, sheds⟩ := shed.of_cons busy
  replace sheds := sheds.congr agree
  rw [opens]
  refine ⟨survivors, ?_⟩
  exact
    { given := by simp
      slots := fun slot => State.slots_openSlot state capacity id resource slot
      tracked := tracked
      sheds := sheds
      busy := fun _ member => sheds.mem_of_busy member
      order := sheds.sublist
      older := fun _ was not _ stays => sheds.older was not stays
      rounds := evicts }

/-- The numbers of a run are given once. -/
theorem Chronicle.newTo (record : Chronicle policy past state) (new : state.tasks.get? id = none) :
    state.NewTo id where
  task := new
  slot := by
    intro resource tracked
    have below := (Sound.of_chronicle record).numbered tracked
    exact Nat.lt_irrefl _ below

end Taking

/-- **A slot is taken exactly.** Take any state, whatever is tracked and in whatever order, and
whichever slots are idle.

* If the resource is tracked, the task is given the slot that is stored, and nothing changes but that
  the resource comes to the front.
* If it is not, the task is given a new slot, which is tracked in front of all others. Of the idle
  ones, those that were used least recently are gone, as many as there are beyond the capacity or all
  of them. All that are in use stay, and what stays keeps its order. The eviction is over after as
  many rounds.
* This is how a task begins in every run, for its number and that of the next slot are new then. -/
theorem slots_are_taken_exactly (state : State) (capacity : Nat) (id : TaskId) (resource : String) :
    (∀ slot, state.tracked.get? resource = some slot →
      Joined state id resource slot (state.takeSlot capacity id resource)) ∧
    (state.tracked.get? resource = none → state.NewTo id → ∃ survivors,
      Opened state capacity id resource survivors (state.takeSlot capacity id resource)) ∧
    (∀ (policy : Policy) (past : Past), Chronicle policy past state →
      state.tasks.get? id = none →
        state.NewTo id ∧ state.step policy (.beginGet id resource) =
          some (state.takeSlot policy.config.capacity id resource, .silent)) := by
  refine ⟨?_, ?_, ?_⟩
  · intro slot tracked
    exact joined_takeSlot tracked
  · intro untracked new
    exact opened_takeSlot untracked new
  · intro policy past record new
    refine ⟨Chronicle.newTo record new, ?_⟩
    simp only [State.step, new]

/-- Four resources that were used one after the other: the first and the third are in use still, the
second and the fourth are idle. -/
def mixedHistory : Past × State :=
  replay (State.step Policy.narrow) State.initial
    [.beginGet 1 "a", .beginGet 2 "b", .beginGet 3 "c", .beginGet 4 "d", .abandon 2, .leave 2,
      .abandon 4, .leave 4]

/-- Room is made by one of the two idle slots, the one that was used less recently. -/
theorem slots_are_taken_exactly_mixed :
    mixedHistory.2.tracked.get? "e" = none ∧ mixedHistory.2.NewTo 9 ∧
      mixedHistory.2.idleCount = 2 ∧
      (∃ survivors, Opened mixedHistory.2 4 9 "e" survivors (mixedHistory.2.takeSlot 4 9 "e") ∧
        survivors.map Prod.fst = ["d", "c", "a"]) ∧
      Joined mixedHistory.2 9 "b" 1 (mixedHistory.2.takeSlot 4 9 "b") ∧
      mixedHistory.2.step Policy.narrow (.beginGet 9 "e") =
        some (mixedHistory.2.takeSlot 1 9 "e", .silent) := by
  have record : Chronicle Policy.narrow mixedHistory.1 mixedHistory.2 := recorded_replay _
  have untracked : mixedHistory.2.tracked.get? "e" = none := by decide +kernel
  have tracked : mixedHistory.2.tracked.get? "b" = some 1 := by decide +kernel
  have unknown : mixedHistory.2.tasks.get? 9 = none := by decide +kernel
  obtain ⟨-, opens, begins⟩ := slots_are_taken_exactly mixedHistory.2 4 9 "e"
  obtain ⟨new, begun⟩ := begins Policy.narrow mixedHistory.1 record unknown
  obtain ⟨survivors, opened⟩ := opens untracked new
  refine ⟨untracked, new, by decide +kernel, ⟨survivors, opened, ?_⟩, ?_, begun⟩
  · have keys : (mixedHistory.2.takeSlot 4 9 "e").tracked.keys = ["e", "d", "c", "a"] := by
      decide +kernel
    rw [Keyed.keys, opened.tracked] at keys
    exact (List.cons.inj keys).2
  · exact (slots_are_taken_exactly mixedHistory.2 4 9 "b").1 1 tracked

end StorageBroker.Refresher
