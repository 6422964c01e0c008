import StorageBroker.Proofs.Table.Metastore

/-!
# Larger caches

More room in a cache takes no hit away. Of two caches that go through the same operations, one at a
time, the smaller one stands in the larger one: what it keeps, the larger one keeps in the same order
(`TableCache.Inside`). So a lookup that the smaller one answers with a snapshot is answered with the
same one by the larger one (`TableCache.larger_cache_keeps_hits`).

The order alone is not enough for a step. A lookup that is found in the larger cache only changes the
larger one alone, so that the two may have different entries at their ends. What is preserved beyond
the order is a bound on the sizes: the larger cache is ahead of the smaller one by no more entries
than its capacity is. Where the larger one is full, the smaller one is full as well, and each of them
puts out its last entry.
-/

set_option autoImplicit false

namespace StorageBroker

namespace TableCache

/-! ## Making room -/

/-- How an entry is put in front of the others. -/
inductive Put {α : Type} (capacity : Option Nat) (entries : Keyed TableId α) (id : TableId)
    (value : α) : Keyed TableId α → Prop where
  /-- It takes the place of an older one. -/
  | replaces {old : α} (present : entries.get? id = some old) :
      Put capacity entries id value (entries.insertFirst id value)
  /-- There is room for one more. -/
  | adds (absent : entries.get? id = none)
      (room : ∀ bound, capacity = some bound → entries.size < bound) :
      Put capacity entries id value (entries.insertFirst id value)
  /-- The last one is put out for it. -/
  | displaces {other : TableId} (displaces : Displaces capacity entries id other) :
      Put capacity entries id value ((entries.erase other).insertFirst id value)

section Put

variable {α : Type} {capacity : Option Nat} {entries behind : Keyed TableId α} {id : TableId}
  {value : α}

/-- One goes and one comes. -/
theorem Displaces.size_eq {other : TableId} (displaces : Displaces capacity entries id other) :
    ((entries.erase other).insertFirst id value).size = entries.size := by
  have absent : (entries.erase other).get? id = none := by
    rw [Keyed.get?_erase, displaces.new]
    exact ite_self none
  have member : other ∈ entries.keys := List.mem_of_getLast? displaces.last
  obtain ⟨⟨_, old⟩, inside, rfl⟩ := List.mem_map.1 member
  have found := (Keyed.get?_eq_some_iff entries _ old).2 inside
  rw [Keyed.size_insertFirst, Keyed.erase_of_get?_eq_none absent, Keyed.size_erase_of_get? found]

/-- An entry is put in one of the three ways, unless there is no room at all. -/
theorem put_putFirst (positive : capacity ≠ some 0) :
    Put capacity entries id value (putFirst capacity entries id value) := by
  cases present : entries.get? id with
  | some old =>
    have kept : putFirst capacity entries id value = entries.insertFirst id value := by
      unfold putFirst
      simp only [Keyed.contains, present, Option.isSome_some, Bool.true_or, if_true]
      split <;> rfl
    rw [kept]
    exact .replaces present
  | none =>
    cases capacity with
    | none =>
      refine .adds present ?_
      rintro _ ⟨⟩
    | some bound =>
      by_cases room : entries.size < bound
      · have kept : putFirst (some bound) entries id value = entries.insertFirst id value := by
          cases isLast : entries.entries.getLast? <;> simp [putFirst, isLast, room]
        rw [kept]
        refine .adds present ?_
        intro other same
        cases same
        exact room
      · have filled : entries.entries ≠ [] := by
          intro empty
          simp [Keyed.size, empty] at room
          simp [room] at positive
        have isLast := List.getLast?_eq_some_getLast filled
        have displaces : Displaces (some bound) entries id (entries.entries.getLast filled).1 := by
          refine ⟨present, ⟨bound, rfl, Nat.not_lt.1 room⟩, ?_⟩
          rw [Keyed.keys, List.getLast?_map, isLast, Option.map_some]
        have out : putFirst (some bound) entries id value =
            (entries.erase (entries.entries.getLast filled).1).insertFirst id value := by
          simp [putFirst, isLast, Keyed.contains, present, room]
        rw [out]
        exact .displaces displaces

/-- A put leaves the size as it is, unless it adds an entry. -/
theorem Put.size_cases (put : Put capacity entries id value behind) :
    behind.size = entries.size ∨ entries.get? id = none ∧
      (∀ bound, capacity = some bound → entries.size < bound) ∧ behind.size = entries.size + 1 := by
  cases put with
  | replaces present => exact .inl (Keyed.size_erase_of_get? present)
  | adds absent room =>
    refine .inr ⟨absent, room, ?_⟩
    rw [Keyed.size_insertFirst, Keyed.erase_of_get?_eq_none absent]
  | displaces displaces => exact .inl displaces.size_eq

/-- Behind a put there are no more entries than the capacity allows. -/
theorem Put.size_le {bound : Nat} (put : Put capacity entries id value behind)
    (bounded : capacity = some bound) (fits : entries.size ≤ bound) : behind.size ≤ bound := by
  rcases put.size_cases with same | ⟨_, room, grown⟩
  · omega
  · have less := room bound bounded
    omega

/-- A put makes a cache no smaller. -/
theorem Put.le_size (put : Put capacity entries id value behind) : entries.size ≤ behind.size := by
  rcases put.size_cases with same | ⟨_, _, grown⟩ <;> omega

/-- A new entry is added, or the capacity was reached. -/
theorem Put.grows_or_full (put : Put capacity entries id value behind)
    (absent : entries.get? id = none) : behind.size = entries.size + 1 ∨
      ∀ bound, capacity = some bound → bound ≤ entries.size := by
  cases put with
  | replaces present =>
    rw [absent] at present
    cases present
  | adds _ _ =>
    refine .inl ?_
    rw [Keyed.size_insertFirst, Keyed.erase_of_get?_eq_none absent]
  | displaces displaces =>
    refine .inr ?_
    intro bound bounded
    obtain ⟨other, same, full⟩ := displaces.full
    cases bounded.symm.trans same
    exact full

end Put

/-! ## One cache inside another -/

/-- A capacity is no greater than another one. -/
def AtMost : Option Nat → Option Nat → Prop
  | _, none => True
  | some less, some more => less ≤ more
  | none, some _ => False

instance : (small large : Option Nat) → Decidable (AtMost small large)
  | _, none => inferInstanceAs (Decidable True)
  | some less, some more => inferInstanceAs (Decidable (less ≤ more))
  | none, some _ => inferInstanceAs (Decidable False)

/-- What a smaller cache keeps stands in what a larger one keeps. -/
structure Inside {α : Type} (small large : Option Nat) (inner outer : Keyed TableId α) : Prop where
  stands : inner.StandsIn outer
  /-- The larger one is ahead by no more entries than it has room beyond the smaller one. -/
  ahead : ∀ bound, large = some bound →
    ∃ less, small = some less ∧ outer.size + less ≤ inner.size + bound

namespace Inside

variable {α : Type} {small large : Option Nat} {inner outer : Keyed TableId α} {id : TableId}

theorem empty (fewer : AtMost small large) :
    Inside small large (Keyed.empty : Keyed TableId α) Keyed.empty where
  stands := List.Sublist.refl _
  ahead := by
    intro bound bounded
    subst bounded
    cases small with
    | none => cases fewer
    | some less => exact ⟨less, rfl, Nat.add_le_add_left fewer _⟩

theorem touch (inside : Inside small large inner outer) (id : TableId) :
    Inside small large (inner.touch id) (outer.touch id) where
  stands := inside.stands.touch id
  ahead := by
    rw [Keyed.size_touch, Keyed.size_touch]
    exact inside.ahead

theorem erase (inside : Inside small large inner outer) (id : TableId) :
    Inside small large (inner.erase id) (outer.erase id) where
  stands := inside.stands.erase id
  ahead := by
    intro bound bounded
    obtain ⟨less, same, ahead⟩ := inside.ahead bound bounded
    refine ⟨less, same, ?_⟩
    cases found : inner.get? id with
    | some value =>
      have first := Keyed.size_erase_of_get? found
      have second := Keyed.size_erase_of_get? (inside.stands.get? found)
      omega
    | none =>
      rw [Keyed.erase_of_get?_eq_none found]
      have fewer := Keyed.size_erase_le outer id
      omega

/-- Where the larger cache is full, so is the smaller one. -/
theorem full {other : TableId} (inside : Inside small large inner outer)
    (displaces : Displaces large outer id other) :
    ∃ less, small = some less ∧ less ≤ inner.size := by
  obtain ⟨bound, bounded, full⟩ := displaces.full
  obtain ⟨less, same, ahead⟩ := inside.ahead bound bounded
  exact ⟨less, same, by omega⟩

section Puts

variable {value : α} {innerBehind outerBehind : Keyed TableId α}

/-- If the larger cache puts an entry out, so does the smaller one, and each of them its last. -/
theorem stands_put (inside : Inside small large inner outer)
    (first : Put small inner id value innerBehind)
    (second : Put large outer id value outerBehind) : innerBehind.StandsIn outerBehind := by
  have among : innerBehind.StandsIn (outer.insertFirst id value) := by
    cases first with
    | replaces _ => exact inside.stands.insertFirst id value
    | adds _ _ => exact inside.stands.insertFirst id value
    | @displaces other _ =>
      have fewer : (inner.erase other).StandsIn inner := List.filter_sublist
      exact (fewer.trans inside.stands).insertFirst id value
  cases second with
  | replaces _ => exact among
  | adds _ _ => exact among
  | @displaces last displaces =>
    have absent := inside.stands.get?_eq_none displaces.new
    cases first with
    | replaces present =>
      rw [absent] at present
      cases present
    | adds _ room =>
      obtain ⟨less, same, full⟩ := inside.full displaces
      have roomy := room less same
      omega
    | @displaces other gone =>
      exact (inside.stands.erase_last gone.last displaces.last).insertFirst id value

/-- **A put keeps the smaller cache inside the larger one.** Only what is new makes the larger cache grow,
and then the smaller one grows or was full. -/
theorem put (inside : Inside small large inner outer)
    (first : Put small inner id value innerBehind)
    (second : Put large outer id value outerBehind) :
    Inside small large innerBehind outerBehind where
  stands := inside.stands_put first second
  ahead := by
    intro bound bounded
    obtain ⟨less, same, ahead⟩ := inside.ahead bound bounded
    refine ⟨less, same, ?_⟩
    have grows := first.le_size
    rcases second.size_cases with stays | ⟨absent, room, grown⟩
    · omega
    · have roomy := room bound bounded
      rcases first.grows_or_full (inside.stands.get?_eq_none absent) with more | full
      · omega
      · have enough := full less same
        omega

end Puts

end Inside

/-! ## Operations one after the other -/

/-- What is done with a cache. A lookup comes with what its probe would tell. -/
inductive Operation (μ : Type) where
  | get (id : TableId) (told : ProbeResult)
  | update (id : TableId) (snapshot : μ)
  | invalidate (id : TableId)
  | clear

/-- An operation with nothing in between: what it answers, and the state behind it. -/
inductive Alone {μ : Type} [Located μ] (capacity : Option Nat) (state : State μ) :
    Operation μ → Option μ → State μ → Prop where
  | get {task : TaskId} {id : TableId} {told : ProbeResult} {answer : Option μ} {last : State μ}
      (new : state.lookups.get? task = none)
      (steps : GetAlone capacity (fun _ => told) task id state answer last) :
      Alone capacity state (.get id told) answer last
  | update {id : TableId} {snapshot : μ} {event : Event μ} {last : State μ}
      (taken : state.step capacity (.update id snapshot) = some (last, event)) :
      Alone capacity state (.update id snapshot) none last
  | invalidate {id : TableId} {event : Event μ} {last : State μ}
      (taken : state.step capacity (.invalidate id) = some (last, event)) :
      Alone capacity state (.invalidate id) none last
  | clear {event : Event μ} {last : State μ}
      (taken : state.step capacity .clear = some (last, event)) :
      Alone capacity state .clear none last

/-- The operations on a cache from its beginning, none of which overlaps another one, with what they
answered; the latest is in front. -/
inductive Session {μ : Type} [Located μ] (capacity : Option Nat) :
    List (Operation μ × Option μ) → State μ → Prop where
  | nothing : Session capacity [] State.initial
  | further {past : List (Operation μ × Option μ)} {state last : State μ} {operation : Operation μ}
      {answer : Option μ} (session : Session capacity past state)
      (alone : Alone capacity state operation answer last) :
      Session capacity ((operation, answer) :: past) last

section Sessions

variable {μ : Type} [Located μ] {small large capacity : Option Nat}
  {state last inner outer innerLast outerLast : State μ} {operation : Operation μ}
  {answer first second : Option μ} {past innerPast outerPast : List (Operation μ × Option μ)}

/-- A cache and a larger one that were told the same. -/
structure Nested (small large : Option Nat) (inner outer : State μ) : Prop where
  inside : Inside small large inner.entries outer.entries
  stamps : inner.nextStamp = outer.nextStamp

/-- A lookup settles in one way only. -/
theorem Settles.unique {id : TableId} {told : Option String}
    (one : Settles told id state first innerLast) (other : Settles told id state second outerLast) :
    first = second ∧ innerLast = outerLast := by
  cases one <;> cases other <;> simp_all

/-- What the smaller cache finds, the larger one finds as well, and does the same with it. -/
theorem Nested.settles {id : TableId} {told : Option String}
    (nested : Nested small large inner outer) (one : Settles told id inner first innerLast)
    (other : Settles told id outer second outerLast) :
    Nested small large innerLast outerLast ∧
      ∀ snapshot, first = some snapshot → second = some snapshot := by
  have touched := nested.inside.touch id
  have erased := nested.inside.erase id
  cases one with
  | missed absent =>
    rw [Keyed.touch_of_get?_eq_none absent] at touched
    rw [Keyed.erase_of_get?_eq_none absent] at erased
    refine ⟨?_, nofun⟩
    cases other with
    | missed _ => exact nested
    | unknown _ _ => exact ⟨touched, nested.stamps⟩
    | confirmed _ _ => exact ⟨touched, nested.stamps⟩
    | dropped _ _ _ => exact ⟨erased, nested.stamps⟩
  | unknown present nowhere =>
    obtain ⟨-, rfl⟩ := other.unique (.unknown (nested.inside.stands.get? present) nowhere)
    exact ⟨⟨touched, nested.stamps⟩, nofun⟩
  | confirmed present there =>
    obtain ⟨rfl, rfl⟩ := other.unique (.confirmed (nested.inside.stands.get? present) there)
    exact ⟨⟨touched, nested.stamps⟩, fun _ same => same⟩
  | dropped present elsewhere differs =>
    obtain ⟨-, rfl⟩ :=
      other.unique (.dropped (nested.inside.stands.get? present) elsewhere differs)
    exact ⟨⟨erased, nested.stamps⟩, nofun⟩

/-- **One operation keeps the smaller cache inside the larger one**, and gives what the smaller one
gives. -/
theorem Nested.alone (nested : Nested small large inner outer) (fewer : AtMost small large)
    (least : small ≠ some 0) (greatest : large ≠ some 0)
    (one : Alone small inner operation first innerLast)
    (other : Alone large outer operation second outerLast) :
    Nested small large innerLast outerLast ∧
      ∀ snapshot, first = some snapshot → second = some snapshot := by
  cases one with
  | get new steps =>
    cases other with
    | get newToo stepsToo =>
      exact nested.settles (settles_of_getAlone new steps) (settles_of_getAlone newToo stepsToo)
  | update taken =>
    cases other with
    | update takenToo =>
      cases taken
      cases takenToo
      refine ⟨⟨?_, congrArg (· + 1) nested.stamps⟩, nofun⟩
      dsimp only
      rw [nested.stamps]
      exact nested.inside.put (put_putFirst least) (put_putFirst greatest)
  | @invalidate id _ _ taken =>
    cases other with
    | invalidate takenToo =>
      cases taken
      cases takenToo
      exact ⟨⟨nested.inside.erase id, nested.stamps⟩, nofun⟩
  | clear taken =>
    cases other with
    | clear takenToo =>
      cases taken
      cases takenToo
      exact ⟨⟨Inside.empty fewer, nested.stamps⟩, nofun⟩

/-- An operation leaves no more entries than the capacity allows. -/
theorem Alone.within {bound : Nat} (alone : Alone capacity state operation answer last)
    (positive : capacity ≠ some 0) (bounded : capacity = some bound)
    (fits : state.size ≤ bound) : last.size ≤ bound := by
  cases alone with
  | @get _ id _ _ _ new steps =>
    cases settles_of_getAlone new steps with
    | missed _ => exact fits
    | unknown _ _ => exact Nat.le_trans (Nat.le_of_eq (Keyed.size_touch state.entries id)) fits
    | confirmed _ _ => exact Nat.le_trans (Nat.le_of_eq (Keyed.size_touch state.entries id)) fits
    | dropped _ _ _ => exact Nat.le_trans (Keyed.size_erase_le state.entries id) fits
  | update taken =>
    cases taken
    exact (put_putFirst positive).size_le bounded fits
  | @invalidate id _ _ taken =>
    cases taken
    exact Nat.le_trans (Keyed.size_erase_le state.entries id) fits
  | clear taken =>
    cases taken
    exact Nat.zero_le _

/-- **A cache keeps no more entries than its capacity allows.** -/
theorem Session.within {bound : Nat} (session : Session capacity past state)
    (positive : capacity ≠ some 0) (bounded : capacity = some bound) : state.size ≤ bound := by
  induction session with
  | nothing => exact Nat.zero_le _
  | further _ alone ih => exact alone.within positive bounded ih

/-- An operation has come to its end when the next one begins. -/
theorem Alone.lookups (alone : Alone capacity state operation answer last) :
    last.lookups = state.lookups := by
  cases alone with
  | get new steps => cases settles_of_getAlone new steps <;> rfl
  | update taken =>
    cases taken
    rfl
  | invalidate taken =>
    cases taken
    rfl
  | clear taken =>
    cases taken
    rfl

theorem Session.lookups (session : Session capacity past state) : state.lookups = Keyed.empty := by
  induction session with
  | nothing => rfl
  | further _ alone ih => exact alone.lookups.trans ih

/-- Every operation comes to its end. -/
theorem exists_alone (operation : Operation μ) (idle : state.lookups = Keyed.empty) :
    ∃ answer last, Alone capacity state operation answer last := by
  cases operation with
  | get id told =>
    have new : state.lookups.get? 0 = none := by rw [idle, Keyed.get?_empty]
    obtain ⟨answer, last, steps⟩ : ∃ answer last,
        GetAlone capacity (fun _ => told) 0 id state answer last := exists_getAlone new
    exact ⟨answer, last, .get new steps⟩
  | update id snapshot => exact ⟨none, _, .update rfl⟩
  | invalidate id => exact ⟨none, _, .invalidate rfl⟩
  | clear => exact ⟨none, _, .clear rfl⟩

/-- All operations can be done, in any order. -/
theorem exists_session (capacity : Option Nat) (operations : List (Operation μ)) :
    ∃ past state, Session capacity past state ∧ past.map Prod.fst = operations := by
  induction operations with
  | nil => exact ⟨[], State.initial, .nothing, rfl⟩
  | cons operation operations ih =>
    obtain ⟨past, state, session, same⟩ := ih
    obtain ⟨answer, last, alone⟩ : ∃ answer last, Alone capacity state operation answer last :=
      exists_alone operation session.lookups
    exact ⟨_, last, session.further alone, by rw [List.map_cons, same]⟩

/-- What the smaller cache gave in an operation, the larger one gave as well. -/
def GivesAsMuch (one other : Operation μ × Option μ) : Prop :=
  one.1 = other.1 ∧ ∀ snapshot, one.2 = some snapshot → other.2 = some snapshot

/-- Two sessions with the same operations run side by side. -/
theorem Session.nested (one : Session small innerPast inner) (other : Session large outerPast outer)
    (fewer : AtMost small large) (least : small ≠ some 0) (greatest : large ≠ some 0)
    (same : innerPast.map Prod.fst = outerPast.map Prod.fst) :
    Nested small large inner outer ∧ List.Forall₂ GivesAsMuch innerPast outerPast := by
  induction one generalizing outerPast outer with
  | nothing =>
    cases other with
    | nothing => exact ⟨⟨Inside.empty fewer, rfl⟩, .nil⟩
    | further _ _ => cases same
  | further _ alone ih =>
    cases other with
    | nothing => cases same
    | further session aloneToo =>
      obtain ⟨rfl, before⟩ := List.cons.inj same
      obtain ⟨nested, gave⟩ := ih session before
      obtain ⟨still, gives⟩ := nested.alone fewer least greatest alone aloneToo
      exact ⟨still, .cons ⟨rfl, gives⟩ gave⟩

/-- A cache that can be made has room for an entry. -/
theorem Config.capacity_ne_zero {config : Config} (valid : config.fault? = none) :
    config.capacity ≠ some 0 := by
  intro zero
  simp [fault?, zero] at valid

end Sessions

/-- **A larger cache keeps every hit.** Let two caches be configured so that they can be made, with
the capacity of the one at most that of the other, or no bound on the other.

* Both can go through any operations, one at a time, from their beginning.
* When both have gone through the same operations, with the same replies of the probes, every entry
  of the smaller cache is in the larger one with the same snapshot, each keeps no more entries than
  its capacity allows, and every lookup that the smaller one answered with a snapshot was answered
  with that snapshot by the larger one. -/
theorem larger_cache_keeps_hits {μ : Type} [Located μ] {small large : Config}
    (valid : small.fault? = none) (validToo : large.fault? = none)
    (fewer : AtMost small.capacity large.capacity) :
    (∀ operations : List (Operation μ), ∃ innerPast inner outerPast outer,
      Session small.capacity innerPast inner ∧ innerPast.map Prod.fst = operations ∧
      Session large.capacity outerPast outer ∧ outerPast.map Prod.fst = operations) ∧
    (∀ (innerPast outerPast : List (Operation μ × Option μ)) (inner outer : State μ),
      Session small.capacity innerPast inner → Session large.capacity outerPast outer →
      innerPast.map Prod.fst = outerPast.map Prod.fst →
        (∀ id entry, inner.entries.get? id = some entry → outer.entries.get? id = some entry) ∧
        (∀ bound, small.capacity = some bound → inner.size ≤ bound) ∧
        (∀ bound, large.capacity = some bound → outer.size ≤ bound) ∧
        List.Forall₂ GivesAsMuch innerPast outerPast) := by
  have least := Config.capacity_ne_zero valid
  have greatest := Config.capacity_ne_zero validToo
  refine ⟨?_, ?_⟩
  · intro operations
    obtain ⟨innerPast, inner, one, same⟩ := exists_session small.capacity operations
    obtain ⟨outerPast, outer, other, sameToo⟩ := exists_session large.capacity operations
    exact ⟨innerPast, inner, outerPast, outer, one, same, other, sameToo⟩
  · intro innerPast outerPast inner outer one other same
    obtain ⟨nested, gives⟩ := one.nested other fewer least greatest same
    refine ⟨?_, ?_, ?_, gives⟩
    · intro id entry found
      exact nested.inside.stands.get? found
    · intro bound bounded
      exact one.within least bounded
    · intro bound bounded
      exact other.within greatest bounded

/-- Room for one table. -/
def narrow : Config := ⟨some 1, 10⟩

/-- Room for two tables. -/
def roomy : Config := ⟨some 2, 10⟩

/-- Metadata of two tables is put in, and both tables are looked up, with these answers. The latest
operation is in front. -/
def twoLookups (first second : Option LoadedMetadata) :
    List (Operation LoadedMetadata × Option LoadedMetadata) :=
  [(.get sampleTable (.answered (.ok (some "1"))), second),
    (.get archivedTable (.answered (.ok (some "2"))), first),
    (.update archivedTable (sampleMetadata "2"), none),
    (.update sampleTable (sampleMetadata "1"), none)]

/-- The table that was put in first is found with more room only. -/
theorem larger_cache_keeps_hits_roomy :
    narrow.fault? = none ∧ roomy.fault? = none ∧ AtMost narrow.capacity roomy.capacity ∧
    ∃ inner outer,
      Session narrow.capacity (twoLookups (some (sampleMetadata "2")) none) inner ∧
      Session roomy.capacity
        (twoLookups (some (sampleMetadata "2")) (some (sampleMetadata "1"))) outer ∧
      outer.entries.get? archivedTable = some ⟨1, sampleMetadata "2"⟩ ∧ inner.size ≤ 1 ∧
      List.Forall₂ GivesAsMuch (twoLookups (some (sampleMetadata "2")) none)
        (twoLookups (some (sampleMetadata "2")) (some (sampleMetadata "1"))) := by
  have idle {state : State LoadedMetadata} (none : state.lookups = Keyed.empty) :
      state.lookups.get? 0 = Option.none := by rw [none, Keyed.get?_empty]
  have one : Session narrow.capacity (twoLookups (some (sampleMetadata "2")) none) _ :=
    (((Session.nothing.further (.update rfl)).further (.update rfl)).further
      (.get (idle rfl) (.told rfl rfl))).further (.get (idle rfl) (.missed rfl))
  have other : Session roomy.capacity
      (twoLookups (some (sampleMetadata "2")) (some (sampleMetadata "1"))) _ :=
    (((Session.nothing.further (.update rfl)).further (.update rfl)).further
      (.get (idle rfl) (.told rfl rfl))).further (.get (idle rfl) (.told rfl rfl))
  obtain ⟨-, keeps⟩ := @larger_cache_keeps_hits LoadedMetadata _ narrow roomy rfl rfl (by decide)
  obtain ⟨found, fits, -, gives⟩ := keeps _ _ _ _ one other rfl
  exact ⟨rfl, rfl, by decide, _, _, one, other, found archivedTable _ rfl, fits 1 rfl, gives⟩

end TableCache

end StorageBroker
