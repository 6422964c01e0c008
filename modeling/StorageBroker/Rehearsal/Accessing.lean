import StorageBroker.Access.Assembly
import StorageBroker.Access.Sink
import StorageBroker.Rehearsal.Probing
import StorageBroker.Rehearsal.Refreshing

/-!
# Rehearsing access

What an assembly puts together works in one world: a refresher whose candidates come from the
providers that were set up, or by script where there are none, and a cache of table metadata. Acts
follow one another. Once closed, the providers stay closed.
-/

set_option autoImplicit false

namespace StorageBroker.Rehearsal

/-! ## A resolver that keeps what it was asked -/

/-- What a resolver is asked. -/
inductive ResolverCall where
  | resolve (resource : String)
  | invalidate (resource : String)
  deriving DecidableEq, Repr

/-- A resolver with one answer for all resources. -/
def recordingResolver (answer : Except CredentialError Credential) :
    Resolver (StateM (List ResolverCall)) where
  resolve resource := do
    modify fun calls => calls ++ [.resolve resource]
    pure answer
  invalidate resource := modify fun calls => calls ++ [.invalidate resource]

/-! ## An assembly at work -/

/-- An assembly at work. -/
structure AccessWorld where
  assembly : Assembly
  credentials : RefresherWorld
  tables : CacheWorld

namespace AccessWorld

/-- Where the candidates of an assembly come from. -/
def supplyOf (assembly : Assembly) : Supply :=
  match assembly.providers with
  | some source => .providers source
  | none => .scripted

/-- A world in which nothing has happened yet. -/
def opening (assembly : Assembly) (stage : Stage) (clock : Int64) (tables : Tables) :
    AccessWorld :=
  ⟨assembly, RefresherWorld.opening stage (supplyOf assembly) clock, CacheWorld.opening tables⟩

/-- Does something with the refresher. -/
def act (world : AccessWorld) (act : RefresherAct) : RefresherOutcome × AccessWorld :=
  let (outcome, credentials) := world.credentials.perform world.assembly.policy act
  (outcome, { world with credentials := credentials })

/-- Does something with the cache. -/
def actOnTables (world : AccessWorld) (act : CacheAct) : CacheOutcome × AccessWorld :=
  let (outcome, tables) := world.tables.perform world.assembly.tableCache act
  (outcome, { world with tables := tables })

/-- Closes the providers. -/
def close (world : AccessWorld) : Except AccessError Unit × AccessWorld :=
  let assembly := world.assembly.closed
  (world.assembly.closing,
    { world with
      assembly := assembly
      credentials := { world.credentials with supply := supplyOf assembly } })

/-- The refresher as a resolver. Asking for a credential ends with a credential or an error, so the
error set in for other outcomes never comes up. -/
def resolver : Resolver (StateM AccessWorld) where
  resolve resource := do
    let (outcome, world) := (← get).act (.get resource)
    set world
    pure (outcome.credential?.getD (.error (.noProvider resource)))
  invalidate resource := modify fun world => (world.act (.invalidate resource)).2

/-- The world as a record of what is at work in it. -/
def inspect (world : AccessWorld) : String := world.assembly.inspect world.credentials.state

end AccessWorld

end StorageBroker.Rehearsal
