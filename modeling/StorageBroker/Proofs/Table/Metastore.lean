import Mathlib.Data.List.Forall2
import StorageBroker.Proofs.Keyed
import StorageBroker.Proofs.Table.Origin
import StorageBroker.Rehearsal.Probing

/-!
# Lookups over a metastore

A metastore tells where the metadata of a table lies by what it holds of it: the parameters must
mark the table as one of the wanted format, in any case, and name a location that is not blank
(`Metastore.Reply.Tells`). A probe over a metastore comes to a location if and only if the reply
tells it (`Metastore.location?_probe_eq_some_iff`). Whatever else the metastore does, the probe
comes to no location, and never to an error (`Metastore.probe_ne_error`).

A lookup with nothing in between takes at most three steps (`GetAlone`), and they are the same for
one entry and one reply. So it gives the snapshot exactly if its location is told, takes out the
entry exactly if another location is told, and changes nothing else (`lookup_over_metastore`).
-/

set_option autoImplicit false

namespace StorageBroker

/-! ## Letters without case -/

namespace Text

/-- Two letters are the same or one of them is the other in lower case. -/
def SameLetter (left right : Char) : Prop :=
  left = right ∨ left = right.toLower ∨ right = left.toLower

theorem toNat_toLower (character : Char) : character.toLower.toNat =
    if 65 ≤ character.toNat ∧ character.toNat ≤ 90 then character.toNat + 32
    else character.toNat := by
  have range : (character.val ≥ 'A'.val ∧ character.val ≤ 'Z'.val) ↔
      65 ≤ character.toNat ∧ character.toNat ≤ 90 := Iff.rfl
  unfold Char.toLower
  split
  · next upper =>
    rw [if_pos (range.1 upper)]
    have small := (range.1 upper).2
    change (character.val + 32).toNat = character.toNat + 32
    rw [UInt32.toNat_add]
    change (character.toNat + 32) % 2 ^ 32 = character.toNat + 32
    omega
  · next other => rw [if_neg fun upper => other (range.2 upper)]

theorem toLower_eq_iff {left right : Char} :
    left.toLower = right.toLower ↔ SameLetter left right := by
  simp only [SameLetter, ← Char.toNat_inj, toNat_toLower]
  split <;> split <;> omega

/-- Texts are equal without case if they agree letter by letter. -/
theorem equalsIgnoringCase_iff {left right : String} :
    equalsIgnoringCase left right = true ↔ List.Forall₂ SameLetter left.toList right.toList := by
  rw [equalsIgnoringCase, beq_iff_eq, ← List.forall₂_eq_eq_eq, List.forall₂_map_left_iff,
    List.forall₂_map_right_iff]
  simp only [toLower_eq_iff]

end Text

/-! ## What a metastore tells -/

namespace Metastore

/-- A reply that tells where the current metadata of a table lies. -/
structure Reply.Tells (reply : Reply) (location : String) : Prop where
  told : ∃ parameters mark, reply = .inTime (.ok parameters) ∧
    parameters.get? formatKey = some mark ∧
    List.Forall₂ Text.SameLetter mark.toList format.toList ∧
    parameters.get? locationKey = some location
  filled : Text.isBlank location = false

variable {store : String × String → Reply} {id : TableId} {location : String}
  {parameters : Properties} {error : TableError}

theorem locationOf_eq_some_iff : locationOf parameters = some location ↔
    Reply.Tells (.inTime (.ok parameters)) location := by
  unfold locationOf
  constructor
  · intro found
    obtain ⟨mark, marked, rest⟩ := Option.bind_eq_some_iff.1 found
    split at rest
    · next same =>
      obtain ⟨place, placed, last⟩ := Option.bind_eq_some_iff.1 rest
      split at last
      · cases last
      · next filled =>
        cases last
        exact ⟨⟨parameters, mark, rfl, marked, Text.equalsIgnoringCase_iff.1 same, placed⟩,
          Bool.eq_false_iff.2 filled⟩
    · cases rest
  · rintro ⟨⟨_, mark, ⟨⟩, marked, same, placed⟩, filled⟩
    refine Option.bind_eq_some_iff.2 ⟨mark, marked, ?_⟩
    rw [if_pos (Text.equalsIgnoringCase_iff.2 same)]
    refine Option.bind_eq_some_iff.2 ⟨location, placed, ?_⟩
    rw [filled, if_neg Bool.false_ne_true]

/-- **A probe over a metastore comes to a location if and only if the reply tells it.** -/
theorem location?_probe_eq_some_iff : (probe store id).location? = some location ↔
    (store (key id)).Tells location := by
  unfold probe
  cases store (key id) with
  | late =>
    constructor
    · rintro ⟨⟩
    · rintro ⟨⟨_, _, ⟨⟩, _⟩, _⟩
  | inTime answer =>
    cases answer with
    | error error =>
      constructor
      · rintro ⟨⟩
      · rintro ⟨⟨_, _, ⟨⟩, _⟩, _⟩
    | ok parameters => exact locationOf_eq_some_iff

/-- A probe over a metastore does not come to an error, whatever the metastore does. -/
theorem probe_ne_error : probe store id ≠ .answered (.error error) := by
  unfold probe
  cases store (key id) with
  | late => exact nofun
  | inTime answer => exact nofun

end Metastore

/-- The tables of a rehearsal as a metastore, in which a probe may take so long. -/
def Rehearsal.Tables.store (tables : Tables) (bound : Nat) (key : String × String) :
    Metastore.Reply :=
  let reply := tables.replyFor (key.1 ++ "." ++ key.2)
  if bound < reply.delay then .late else .inTime (reply.answer.map Finding.parameters)

/-- A rehearsal over a metastore probes as told here. -/
theorem Rehearsal.CacheWorld.lookUp_over_metastore {config : TableCache.Config} {world : CacheWorld}
    {id : TableId} {catalog label : String} (kind : world.tables.probe = .metastore catalog label) :
    (world.lookUp config id).2.1 =
      Metastore.probe (world.tables.store config.probeTimeout) id := by
  have named : world.tables.nameOf id = (Metastore.key id).1 ++ "." ++ (Metastore.key id).2 := by
    rw [Tables.nameOf, kind]
  unfold lookUp Metastore.probe Tables.store
  dsimp only
  rw [named]
  split
  · rfl
  · rw [Tables.located, kind]

namespace TableCache

/-! ## A lookup with nothing in between -/

/-- The steps of a lookup with nothing in between, up to the one that tells the caller. -/
inductive GetAlone {μ : Type} [Located μ] (capacity : Option Nat) (probe : TableId → ProbeResult)
    (task : TaskId) (id : TableId) (first : State μ) : Option μ → State μ → Prop where
  | missed {answer : Option μ} {last : State μ}
      (begins : first.step capacity (.beginGet task id) = some (last, .answered answer)) :
      GetAlone capacity probe task id first answer last
  | told {asked : TableId} {second last : State μ} {answer : Option μ}
      (begins : first.step capacity (.beginGet task id) = some (second, .probing asked))
      (ends : second.step capacity (.probed task (probe asked)) = some (last, .answered answer)) :
      GetAlone capacity probe task id first answer last
  | dropped {asked : TableId} {second third last : State μ} {answer : Option μ}
      (begins : first.step capacity (.beginGet task id) = some (second, .probing asked))
      (rejects : second.step capacity (.probed task (probe asked)) = some (third, .silent))
      (ends : third.step capacity (.drop task) = some (last, .answered answer)) :
      GetAlone capacity probe task id first answer last

/-- What a lookup with nothing in between comes to, by what its probe tells: an answer and the state
behind it. -/
inductive Settles {μ : Type} [Located μ] (told : Option String) (id : TableId) (state : State μ) :
    Option μ → State μ → Prop where
  | missed (absent : state.entries.get? id = none) : Settles told id state none state
  | unknown {found : Stamped μ} (present : state.entries.get? id = some found)
      (nowhere : told = none) :
      Settles told id state none { state with entries := state.entries.touch id }
  | confirmed {found : Stamped μ} (present : state.entries.get? id = some found)
      (there : told = some (Located.location found.snapshot)) :
      Settles told id state (some found.snapshot) { state with entries := state.entries.touch id }
  | dropped {found : Stamped μ} {location : String} (present : state.entries.get? id = some found)
      (elsewhere : told = some location) (differs : location ≠ Located.location found.snapshot) :
      Settles told id state none { state with entries := state.entries.erase id }

/-- What a lookup does with an entry when it is told what a metastore replies, whatever that is. -/
structure Revalidates {μ : Type} [Located μ] (reply : Metastore.Reply) (id : TableId)
    (state : State μ) (answer : Option μ) (last : State μ) : Prop where
  /-- A snapshot is given exactly if it is kept and its location is told. -/
  given : ∀ snapshot, answer = some snapshot ↔
    ∃ entry, state.entries.get? id = some entry ∧ entry.snapshot = snapshot ∧
      reply.Tells (Located.location snapshot)
  /-- An entry is taken out exactly if another location is told. -/
  removed : ∀ entry, state.entries.get? id = some entry →
    (last.entries.get? id = none ↔
      ∃ location, reply.Tells location ∧ location ≠ Located.location entry.snapshot)
  /-- Otherwise it stays as it was. -/
  kept : ∀ entry, last.entries.get? id = some entry → state.entries.get? id = some entry
  others : ∀ other, other ≠ id → last.entries.get? other = state.entries.get? other
  /-- The other entries keep their order, too. -/
  order : last.entries.erase id = state.entries.erase id
  lookups : last.lookups = state.lookups

section Alone

variable {μ : Type} {task : TaskId} {id : TableId} {state last : State μ} {answer : Option μ}
  {found : Stamped μ}

/-- An entry that has not changed since it was found is dropped. -/
theorem dropFound_of_present (present : state.entries.get? id = some found) :
    state.dropFound ⟨id, found, .dropping⟩ = state.entries.erase id := by
  rw [State.dropFound, present]
  exact if_pos rfl

variable [Located μ] {capacity : Option Nat} {probe : TableId → ProbeResult}

/-- **A lookup with nothing in between settles as told.** What is noted of it on the way is gone in
the end. -/
theorem settles_of_getAlone (new : state.lookups.get? task = none)
    (alone : GetAlone capacity probe task id state answer last) :
    Settles (probe id).location? id state answer last := by
  have waits (found : Stamped μ) (phase : Phase) :
      (state.lookups.insert task ⟨id, found, phase⟩).get? task = some ⟨id, found, phase⟩ := by
    rw [Keyed.get?_insert, if_pos rfl]
  have forgets (found : Stamped μ) (phase : Phase) :
      (state.lookups.insert task ⟨id, found, phase⟩).erase task = state.lookups :=
    Keyed.erase_insert_of_new new _
  cases alone with
  | missed begins =>
    cases change_of_step begins with
    | miss _ absent => exact .missed absent
  | told begins ends =>
    cases change_of_step begins with
    | find _ present =>
      cases change_of_step ends with
      | unknown asks nowhere =>
        rw [forgets]
        exact .unknown present nowhere
      | confirm asks there =>
        cases (waits _ _).symm.trans asks
        rw [forgets]
        exact .confirmed present there
  | dropped begins rejects ends =>
    cases change_of_step begins with
    | find _ present =>
      cases change_of_step rejects with
      | reject asks elsewhere differs =>
        cases (waits _ _).symm.trans asks
        rw [Keyed.insert_insert] at ends
        cases change_of_step ends with
        | drop rejected =>
          cases (waits _ _).symm.trans rejected
          rw [forgets, dropFound_of_present (by rw [Keyed.get?_touch]; exact present),
            Keyed.erase_touch]
          exact .dropped present elsewhere differs

/-- A lookup with nothing in between comes to its end. -/
theorem exists_getAlone (new : state.lookups.get? task = none) :
    ∃ answer last, GetAlone capacity probe task id state answer last := by
  cases present : state.entries.get? id with
  | none => exact ⟨none, state, .missed (by simp only [State.step, new, present])⟩
  | some found =>
    let second : State μ := { state with
      entries := state.entries.touch id
      lookups := state.lookups.insert task ⟨id, found, .probing⟩ }
    have begins : state.step capacity (.beginGet task id) = some (second, .probing id) := by
      simp only [State.step, new, present, second]
    have asks : second.lookups.get? task = some ⟨id, found, .probing⟩ := by
      rw [Keyed.get?_insert, if_pos rfl]
    cases known : (probe id).location? with
    | none =>
      refine ⟨none, { second with lookups := second.lookups.erase task }, .told begins ?_⟩
      simp only [State.step, asks, known]
    | some location =>
      by_cases same : location = Located.location found.snapshot
      · refine ⟨some found.snapshot, { second with lookups := second.lookups.erase task },
          .told begins ?_⟩
        simp only [State.step, asks, known, if_pos same]
      · let third : State μ := { second with
          lookups := second.lookups.insert task ⟨id, found, .dropping⟩ }
        have rejects : second.step capacity (.probed task (probe id)) = some (third, .silent) := by
          simp only [State.step, asks, known, if_neg same, third]
        have rejected : third.lookups.get? task = some ⟨id, found, .dropping⟩ := by
          rw [Keyed.get?_insert, if_pos rfl]
        refine ⟨none, { third with
          entries := third.dropFound ⟨id, found, .dropping⟩
          lookups := third.lookups.erase task }, .dropped begins rejects ?_⟩
        simp only [State.step, rejected]

/-- Moving the entry of a table to the front keeps it. -/
theorem kept_of_touched {reply : Metastore.Reply} (present : state.entries.get? id = some found)
    (given : ∀ snapshot, answer = some snapshot ↔
      found.snapshot = snapshot ∧ reply.Tells (Located.location snapshot))
    (same : ∀ location, reply.Tells location → location = Located.location found.snapshot) :
    Revalidates reply id state answer { state with entries := state.entries.touch id } where
  given := by
    intro snapshot
    rw [given]
    constructor
    · intro gives
      exact ⟨found, present, gives⟩
    · rintro ⟨entry, kept, gives⟩
      cases present.symm.trans kept
      exact gives
  removed := by
    intro entry kept
    cases present.symm.trans kept
    rw [Keyed.get?_touch, present]
    constructor
    · rintro ⟨⟩
    · rintro ⟨location, tells, differs⟩
      exact absurd (same location tells) differs
  kept := by
    intro entry still
    rw [Keyed.get?_touch] at still
    exact still
  others := fun _ _ => Keyed.get?_touch _ _ _
  order := Keyed.erase_touch _ _
  lookups := rfl

/-- What a lookup comes to, in terms of what the metastore replies. -/
theorem revalidates_of_settles {store : String × String → Metastore.Reply}
    (settles : Settles (Metastore.probe store id).location? id state answer last) :
    Revalidates (store (Metastore.key id)) id state answer last := by
  have tells {location : String} : (store (Metastore.key id)).Tells location ↔
      (Metastore.probe store id).location? = some location :=
    Metastore.location?_probe_eq_some_iff.symm
  cases settles with
  | missed absent =>
    have nothing {entry : Stamped μ} : state.entries.get? id ≠ some entry := by
      rw [absent]
      exact nofun
    exact
      { given := fun snapshot => ⟨nofun, fun ⟨entry, present, _⟩ => absurd present nothing⟩
        removed := fun entry present => absurd present nothing
        kept := fun _ still => still
        others := fun _ _ => rfl
        order := rfl
        lookups := rfl }
  | unknown present nowhere =>
    refine kept_of_touched present ?_ ?_
    · intro snapshot
      rw [tells, nowhere]
      simp
    · intro location told
      cases nowhere.symm.trans (tells.1 told)
  | @confirmed found present there =>
    refine kept_of_touched present ?_ ?_
    · intro snapshot
      constructor
      · rintro ⟨⟩
        exact ⟨rfl, tells.2 there⟩
      · rintro ⟨rfl, -⟩
        rfl
    · intro location told
      cases there.symm.trans (tells.1 told)
      rfl
  | @dropped found location present elsewhere differs =>
    have gone : (state.entries.erase id).get? id = none := by rw [Keyed.get?_erase, if_pos rfl]
    refine ⟨?_, ?_, ?_, ?_, Keyed.erase_erase _ _, rfl⟩
    · intro snapshot
      constructor
      · rintro ⟨⟩
      · rintro ⟨entry, kept, rfl, told⟩
        cases present.symm.trans kept
        cases elsewhere.symm.trans (tells.1 told)
        exact absurd rfl differs
    · intro entry kept
      cases present.symm.trans kept
      exact ⟨fun _ => ⟨location, tells.2 elsewhere, differs⟩, fun _ => gone⟩
    · intro entry still
      cases gone.symm.trans still
    · intro other different
      rw [Keyed.get?_erase, if_neg different.symm]

end Alone

/-- **Lookups over a metastore.**

* A probe over a metastore does not come to an error, whatever the metastore does, and it is by such
  probes that a rehearsal over a metastore goes.
* A lookup with nothing in between comes to an end. It asks the metastore for the first level of the
  namespace and the name. It gives a snapshot if and only if it is kept and the reply tells its
  location; it takes the entry out if and only if the reply tells another location; and nothing else
  changes. -/
theorem lookup_over_metastore :
    (∀ (store : String × String → Metastore.Reply) (id : TableId) (error : TableError),
      Metastore.probe store id ≠ .answered (.error error)) ∧
    (∀ (config : Config) (world : Rehearsal.CacheWorld) (id : TableId) (catalog label : String),
      world.tables.probe = .metastore catalog label →
        (world.lookUp config id).2.1 =
          Metastore.probe (world.tables.store config.probeTimeout) id) ∧
    ∀ (μ : Type) [Located μ] (capacity : Option Nat) (store : String × String → Metastore.Reply)
      (task : TaskId) (id : TableId) (state : State μ), state.lookups.get? task = none →
        (∃ answer last, GetAlone capacity (Metastore.probe store) task id state answer last) ∧
        ∀ answer last, GetAlone capacity (Metastore.probe store) task id state answer last →
          Revalidates (store (id.levels.headD "", id.name)) id state answer last := by
  refine ⟨fun _ _ _ => Metastore.probe_ne_error, ?_, ?_⟩
  · intro config world id catalog label kind
    exact Rehearsal.CacheWorld.lookUp_over_metastore kind
  · intro μ _ capacity store task id state new
    refine ⟨exists_getAlone new, ?_⟩
    intro answer last alone
    exact revalidates_of_settles (settles_of_getAlone new alone)

/-- A table below a namespace of two levels. -/
def archivedTable : TableId := ⟨["sales", "archive"], "orders"⟩

/-- A cache in which two tables are kept, which have their name and the first level in common. -/
def archiveState : State LoadedMetadata where
  entries := Keyed.ofList
    [(archivedTable, ⟨0, sampleMetadata "1"⟩), (sampleTable, ⟨1, sampleMetadata "2"⟩)]
  nextStamp := 2
  lookups := Keyed.empty

/-- A metastore that knows of one table. -/
def singleStore (mark location : String) (key : String × String) : Metastore.Reply :=
  if key = ("sales", "orders") then
    .inTime (.ok (Keyed.ofList [(Metastore.formatKey, mark), (Metastore.locationKey, location)]))
  else .late

theorem lookup_over_metastore_archived :
    (∃ last, GetAlone none (Metastore.probe (singleStore "Iceberg" "1")) 0 archivedTable
      archiveState (some (sampleMetadata "1")) last) ∧
    ∃ answer last, GetAlone none (Metastore.probe (singleStore "iceberg" "3")) 0 archivedTable
        archiveState answer last ∧
      last.entries.get? archivedTable = none ∧
      last.entries.get? sampleTable = some ⟨1, sampleMetadata "2"⟩ := by
  obtain ⟨-, -, looks⟩ := lookup_over_metastore
  constructor
  · obtain ⟨⟨answer, last, alone⟩, ends⟩ := looks LoadedMetadata none (singleStore "Iceberg" "1") 0
      archivedTable archiveState rfl
    have told : (singleStore "Iceberg" "1" (Metastore.key archivedTable)).Tells "1" :=
      Metastore.location?_probe_eq_some_iff.1 rfl
    obtain rfl : answer = some (sampleMetadata "1") :=
      ((ends answer last alone).given _).2 ⟨_, rfl, rfl, told⟩
    exact ⟨last, alone⟩
  · obtain ⟨⟨answer, last, alone⟩, ends⟩ := looks LoadedMetadata none (singleStore "iceberg" "3") 0
      archivedTable archiveState rfl
    have told : (singleStore "iceberg" "3" (Metastore.key archivedTable)).Tells "3" :=
      Metastore.location?_probe_eq_some_iff.1 rfl
    have validated := ends answer last alone
    exact ⟨answer, last, alone, (validated.removed _ rfl).2 ⟨"3", told, by decide⟩,
      validated.others sampleTable (by decide)⟩

end TableCache

end StorageBroker
