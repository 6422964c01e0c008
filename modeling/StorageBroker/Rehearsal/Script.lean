/-!
# Scripts

In a rehearsal a party from outside answers by a script: each call takes the next answer, and the
last answer serves all further calls. A cue says besides how long the answer takes and how far
the clock is moved before it is given.
-/

set_option autoImplicit false

namespace StorageBroker.Rehearsal

/-- An answer with its circumstances. -/
structure Cue (α : Type) where
  /-- How long the answer takes, in milliseconds. -/
  delay : Nat
  /-- How far the clock is moved. -/
  advance : Int64
  answer : α

/-- The answers of a party. -/
structure Script (α : Type) where
  next : Cue α
  later : List (Cue α)

namespace Script

variable {α : Type}

/-- The script that gives one answer at once, always. -/
def always (answer : α) : Script α := ⟨⟨0, 0, answer⟩, []⟩

/-- The script with the cues in their order; a spare answer where there are none. -/
def ofList (spare : α) : List (Cue α) → Script α
  | [] => always spare
  | cue :: rest => ⟨cue, rest⟩

/-- The script behind one call. -/
def rest (script : Script α) : Script α :=
  match script.later with
  | [] => script
  | cue :: further => ⟨cue, further⟩

end Script

end StorageBroker.Rehearsal
