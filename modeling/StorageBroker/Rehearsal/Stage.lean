import StorageBroker.Provider.Source
import StorageBroker.Rehearsal.Script

/-!
# The stage: scripted issuers and sources

On a stage a token issuer and a source of candidates answer by their scripts, and what they are
asked is kept. A call that would end behind a bound is cut off at the bound. It has used up its
answer then, and it counts as a call, but it does not move the clock.
-/

set_option autoImplicit false

namespace StorageBroker.Rehearsal

/-- The answer of a source. -/
abbrev SourceAnswer := Except CredentialError (List Credential)

/-- The scripted parties, and what they were asked. -/
structure Stage where
  issuer : Script IssuerAnswer
  source : Script SourceAnswer
  requests : List TokenRequest
  calls : Nat

/-- What calls come to. -/
structure Course (α : Type) where
  duration : Nat
  /-- How far the clock moves. -/
  advance : Int64
  /-- The answer; nothing if the calls were cut off. -/
  answer : Option α

/-- Where the candidates come from. -/
inductive Supply where
  | scripted
  | providers (source : ProviderSource)

namespace Stage

/-- A stage on which nothing was asked yet. -/
def opening (issuer : Script IssuerAnswer) (source : Script SourceAnswer) : Stage :=
  ⟨issuer, source, [], 0⟩

/-- The stage behind a call to the issuer. -/
def requested (stage : Stage) (request : TokenRequest) : Stage :=
  { stage with
    issuer := stage.issuer.rest
    requests := stage.requests ++ [request]
    calls := stage.calls + 1 }

/-- The stage behind a call to the source. -/
def consulted (stage : Stage) : Stage :=
  { stage with source := stage.source.rest, calls := stage.calls + 1 }

/-- The bound, if a time lies behind it. -/
def exceeded? (bound : Option Nat) (time : Nat) : Option Nat :=
  bound.filter fun limit => limit < time

/-- Leads a dialogue, in which some time was spent and the clock moved before. -/
def converse {α : Type} (bound : Option Nat) :
    Dialogue α → Nat → Int64 → Stage → Course α × Stage
  | .done value, spent, moved, stage => (⟨spent, moved, some value⟩, stage)
  | .ask request next, spent, moved, stage =>
    let cue := stage.issuer.next
    match exceeded? bound (spent + cue.delay) with
    | some limit => (⟨limit, moved, none⟩, stage.requested request)
    | none =>
      converse bound (next cue.answer) (spent + cue.delay) (moved + cue.advance)
        (stage.requested request)

/-- The value that a dialogue comes to without a bound, and the stage behind it. -/
def talk {α : Type} : Dialogue α → Stage → α × Stage
  | .done value, stage => (value, stage)
  | .ask request next, stage => talk (next stage.issuer.next.answer) (stage.requested request)

/-- Loads the candidates for a resource within a bound. -/
def load (stage : Stage) (supply : Supply) (resource : String) (bound : Nat) :
    Course SourceAnswer × Stage :=
  match supply with
  | .providers source => converse (some bound) (source.load resource) 0 0 stage
  | .scripted =>
    let cue := stage.source.next
    match exceeded? (some bound) cue.delay with
    | some limit => (⟨limit, 0, none⟩, stage.consulted)
    | none => (⟨cue.delay, cue.advance, some cue.answer⟩, stage.consulted)

end Stage

end StorageBroker.Rehearsal
