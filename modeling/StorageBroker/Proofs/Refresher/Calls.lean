import StorageBroker.Proofs.Refresher.Serial
import StorageBroker.Proofs.Refresher.Visit

/-!
# The calls of a run

The calls on one resource that have their answers are read off the course of its lane (`calls`), each
with the instants at which it began and at which it was answered. An eviction counts as an
invalidation.

Calls in an order are explained if their deeds, with their outcomes, lead from one entry to another
(`Explained`). What is explained is what the machine does when it performs the deeds one after another
(`Explained.serially`).
-/

set_option autoImplicit false

namespace StorageBroker.Refresher

/-! ## Calls -/

/-- A call that has its answer: the instants at which it began and at which it was answered, what it
did, and what the caller was told. -/
structure Call where
  begun : Nat
  ended : Nat
  deed : Deed
  told : Option Reply
  deriving DecidableEq

namespace Deed

/-- Whether something is loaded. -/
def loads : Deed → Bool
  | .get _ load => load.isSome
  | .look _ | .invalidate => false

end Deed

/-- What came of a call. -/
def Call.outcome (call : Call) : Outcome := ⟨call.told, call.deed.loads⟩

/-- The slot of a lane is evicted at a moment of a step that is about another resource. -/
def Evicts (moment : Moment Lane (Option Step) Event) : Prop :=
  moment.step = none ∧ moment.before.slot.isSome = true ∧ moment.after.slot.isSome = false

instance : DecidablePred Evicts := fun moment =>
  inferInstanceAs (Decidable (moment.step = none ∧ moment.before.slot.isSome = true ∧
    moment.after.slot.isSome = false))

/-- The call that is answered at a moment. An eviction counts as an invalidation. -/
def call? (past : Course) (moment : Moment Lane (Option Step) Event) : Option Call :=
  match moment.step, moment.event with
  | some (.decide id reading), .hit credential => do
    let start ← begun id past
    some ⟨start, past.length, .get reading none, some (.credential (.ok credential))⟩
  | some (.settle id result now), .settled answer => do
    let start ← begun id past
    let (_, reading) ← decided id past
    some ⟨start, past.length, .get reading (some (result, now)), some (.credential answer)⟩
  | some (.look id reading), .looked freshness => do
    let start ← begun id past
    some ⟨start, past.length, .look (some reading), some (.freshness freshness)⟩
  | some (.beginLook _ _), .looked freshness =>
    some ⟨past.length, past.length, .look none, some (.freshness freshness)⟩
  | some (.invalidate _), _ => some ⟨past.length, past.length, .invalidate, none⟩
  | none, _ =>
    if Evicts moment then some ⟨past.length, past.length, .invalidate, none⟩ else none
  | _, _ => none

/-- The calls of a course that have their answers. -/
def calls : Course → List Call
  | [] => []
  | moment :: past => (call? past moment).toList ++ calls past

/-- A call is answered at a moment: its caller is told something, or the resource is invalidated, or
its slot is evicted. -/
def Answers (moment : Moment Lane (Option Step) Event) : Prop :=
  moment.event.reply?.isSome = true ∨ (∃ resource, moment.step = some (.invalidate resource)) ∨
    Evicts moment

/-! ## Explanations -/

/-- Calls in an order in which their deeds, with their outcomes, lead from one entry to another. -/
inductive Explained (policy : Policy) (resource : String) : Entry → List Call → Entry → Prop where
  | nil (entry : Entry) : Explained policy resource entry [] entry
  | cons {first second last : Entry} {call : Call} {rest : List Call}
      (means : Means policy resource first call.deed second call.outcome)
      (further : Explained policy resource second rest last) :
      Explained policy resource first (call :: rest) last

namespace Explained

variable {policy : Policy} {resource : String} {first middle last : Entry} {call : Call}
  {order further : List Call}

theorem append (explained : Explained policy resource first order middle)
    (rest : Explained policy resource middle further last) :
    Explained policy resource first (order ++ further) last := by
  induction explained with
  | nil _ => exact rest
  | cons means _ ih => exact .cons means (ih rest)

theorem concat (explained : Explained policy resource first order middle)
    (means : Means policy resource middle call.deed last call.outcome) :
    Explained policy resource first (order ++ [call]) last :=
  explained.append (.cons means (.nil last))

/-- Invalidations lead to the empty entry, if there is one at all. -/
theorem of_invalidations (invalidates : ∀ call ∈ order, call.deed = .invalidate ∧ call.told = none) :
    Explained policy resource first order (if order = [] then first else Entry.empty) := by
  induction order generalizing first with
  | nil => exact .nil first
  | cons call rest ih =>
    obtain ⟨same, told⟩ := invalidates call List.mem_cons_self
    have means : Means policy resource first call.deed Entry.empty call.outcome := by
      rw [Call.outcome, same, told]
      exact .invalidate
    have further : Explained policy resource Entry.empty rest
        (if rest = [] then Entry.empty else Entry.empty) :=
      ih fun other member => invalidates other (List.mem_cons_of_mem call member)
    rw [ite_self] at further
    rw [if_neg (List.cons_ne_nil call rest)]
    exact .cons means further

/-- **What is explained is performed**, one call after another. -/
theorem serially (explained : Explained policy resource first order last) (spare : Int64)
    {state : State} (quiet : Quiet resource first state) :
    state.serially policy resource spare (order.map Call.deed) = order.map Call.outcome := by
  induction explained generalizing state with
  | nil _ => rfl
  | cons means _ ih =>
    obtain ⟨same, behind⟩ := quiet.perform policy spare means
    rw [List.map_cons, List.map_cons, State.serially, same, ih behind]

end Explained

/-! ## Bounds -/

section Bounds

variable {past : Course} {moment : Moment Lane (Option Step) Event} {call : Call}

/-- A call is answered at the moment that is looked at, and it has begun by then. -/
theorem bounds_of_call? (answered : call? past moment = some call) :
    call.begun ≤ past.length ∧ call.ended = past.length := by
  unfold call? at answered
  split at answered
  · obtain ⟨start, begins, same⟩ := Option.bind_eq_some_iff.1 answered
    cases same
    exact ⟨Nat.le_of_lt (begun_lt_length begins), rfl⟩
  · obtain ⟨start, begins, rest⟩ := Option.bind_eq_some_iff.1 answered
    obtain ⟨⟨_, reading⟩, _, same⟩ := Option.bind_eq_some_iff.1 rest
    cases same
    exact ⟨Nat.le_of_lt (begun_lt_length begins), rfl⟩
  · obtain ⟨start, begins, same⟩ := Option.bind_eq_some_iff.1 answered
    cases same
    exact ⟨Nat.le_of_lt (begun_lt_length begins), rfl⟩
  · cases answered
    exact ⟨Nat.le_refl _, rfl⟩
  · cases answered
    exact ⟨Nat.le_refl _, rfl⟩
  · split at answered
    · cases answered
      exact ⟨Nat.le_refl _, rfl⟩
    · cases answered
  · cases answered

/-- The calls of a course have begun before its end. -/
theorem begun_lt_length_of_mem (member : call ∈ calls past) : call.begun < past.length := by
  induction past with
  | nil => cases member
  | cons moment past ih =>
    rw [calls, List.mem_append, Option.mem_toList] at member
    rcases member with new | older
    · exact Nat.lt_succ_of_le (bounds_of_call? new).1
    · exact Nat.lt_succ_of_lt (ih older)

end Bounds

end StorageBroker.Refresher
