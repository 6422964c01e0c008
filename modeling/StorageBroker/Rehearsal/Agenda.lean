/-!
# Agendas

A rehearsal has a time of its own, in milliseconds from zero on. Acts begin at set times, and an
act may begin something that ends later: it goes on the agenda with the time at which it is due.
Whatever is due up to the time of the next act is ended first, the earliest in front, and of
several things due at one time the one that began first.
-/

set_option autoImplicit false

namespace StorageBroker.Rehearsal

/-- Something that is under way until a time. -/
structure Pending (φ : Type) where
  due : Nat
  content : φ

/-- The first of those due the earliest, and the others. -/
def earliest? {φ : Type} : List (Pending φ) → Option (Pending φ × List (Pending φ))
  | [] => none
  | pending :: rest =>
    match earliest? rest with
    | none => some (pending, [])
    | some (other, others) =>
      if pending.due ≤ other.due then some (pending, rest) else some (other, pending :: others)

/-- How acts of a type begin in a world, and how what they began comes to its end. -/
structure Play (σ φ ε : Type) where
  /-- Begins an act at a time, under the number of the act. -/
  begin : Nat → Nat → ε → σ → σ × List (Pending φ)
  /-- Ends what was under way, at a time. -/
  complete : Nat → φ → σ → σ × List (Pending φ)

namespace Play

variable {σ φ ε : Type}

/-- Whether something is due up to a limit. -/
def isDue (limit : Option Nat) (pending : Pending φ) : Bool :=
  match limit with
  | none => true
  | some time => pending.due ≤ time

/-- Ends what is due up to a limit, but no more things than told. -/
def completeDue (play : Play σ φ ε) (limit : Option Nat) :
    Nat → σ × List (Pending φ) → σ × List (Pending φ)
  | 0, reached => reached
  | count + 1, (world, agenda) =>
    match earliest? agenda with
    | none => (world, agenda)
    | some (first, others) =>
      if isDue limit first then
        let (world, begun) := play.complete first.due first.content world
        play.completeDue limit count (world, others ++ begun)
      else (world, agenda)

/-- Ends all that is under way, in a world where at most `count` things come to an end. -/
def completeAll (play : Play σ φ ε) (count : Nat) (reached : σ × List (Pending φ)) : σ :=
  (play.completeDue none count reached).1

/-- Performs one act from its beginning to its end, when nothing else is under way. -/
def perform (play : Play σ φ ε) (number : Nat) (act : ε) (world : σ) : σ :=
  play.completeAll 1 (play.begin 0 number act world)

/-- Adds an act to acts in the order of their times, behind those of the same time. -/
def insertByTime (item : Nat × Nat × ε) : List (Nat × Nat × ε) → List (Nat × Nat × ε)
  | [] => [item]
  | first :: rest =>
    if first.1 ≤ item.1 then first :: insertByTime item rest else item :: first :: rest

/-- Acts with their times and numbers, in the order of their times. -/
def order (acts : List (Nat × ε)) : List (Nat × Nat × ε) :=
  acts.zipIdx.foldl (fun ordered act => insertByTime (act.1.1, act.2, act.1.2) ordered) []

/-- Performs acts at their times, each of which begins one thing at most. -/
def performAll (play : Play σ φ ε) (acts : List (Nat × ε)) (world : σ) : σ :=
  let reached :=
    (order acts).foldl
      (fun reached act =>
        let (world, agenda) := play.completeDue (some act.1) acts.length reached
        let (world, begun) := play.begin act.1 act.2.1 act.2.2 world
        (world, agenda ++ begun))
      (world, [])
  play.completeAll acts.length reached

end Play

end StorageBroker.Rehearsal
