import Switchboard.Catalog.System
import Switchboard.Scenario.Step

/-!
# Sessions

A scenario wires a mediator, either over registrations of its own or as the
complete catalog, and then carries out its steps one after the other on the
same world. A step that panics answers its panic, and the session goes on.

Scripted components send messages through the mediator that runs them. Such
calls may nest, up to a depth that no scenario reaches which comes to an end;
beyond it they panic.
-/

namespace Switchboard.Scenario

/-- What a session's mediator is wired over. -/
inductive Setup where
  | registrations (specs : List RegistrationSpec) (config : Config)
  | catalog (config : Catalog.Config)

structure Session where
  setup : Setup
  /-- How many cancellation sources there are. -/
  sources : Nat := 0
  /-- The mark of the first failure that the session makes. -/
  nextMark : Nat := 0
  /-- The mocks in the order of their registration. Those of one name and one
  type are the same mock. -/
  mocks : List NamedMock := []
  steps : List Step

/-! ## Wiring -/

def entriesOf (gateway : Gateway) (specs : List RegistrationSpec) :
    List (Entry State Request Notification) :=
  specs.mapIdx fun place spec => spec.entry gateway place

/-- A gateway to the mediator of some registrations, for calls nested at most
`depth` deep. -/
def gateway (specs : List RegistrationSpec) (config : Config) : (depth : Nat) → Gateway
  | 0 =>
    { send := fun _ _ _ => Action.panic (.text "calls are nested too deep")
      publish := fun _ _ _ => Action.panic (.text "calls are nested too deep") }
  | depth + 1 =>
    let mediator (_ : Unit) : Mediator State Request Notification :=
      { lookup := (Registry.ofList (entriesOf (gateway specs config depth) specs)).lookup, config }
    { send := fun k request signal => (mediator ()).send k request signal
      publish := fun n notification signal => (mediator ()).publish n notification signal }

/-- How deep calls may nest. -/
def maxDepth : Nat := 4096

/-- Wires the mediator of a session. -/
def Setup.wire : Setup → Action State Wiring
  | .registrations specs config => do
    return { registry := ← Registry.build (entriesOf (gateway specs config maxDepth) specs), config }
  | .catalog config => do
    return { registry := ← Catalog.wire config, config := config.mediator }

/-! ## Running -/

/-- What a step, or the wiring, leaves behind. -/
structure Observation (α : Type) where
  exit : Exit α
  trace : Trace
  /-- The state of the catalog afterwards. -/
  catalog : Catalog.State

def Session.initial (s : Session) : World State :=
  { state := s.mocks.foldl State.joinMock {}
    sources := List.replicate s.sources {}
    nextMark := s.nextMark }

/-- Carries out steps one after the other. -/
def runSteps (w : Wiring) : List Step → World State → List (Observation Reading)
  | [], _ => []
  | step :: steps, world =>
    let run := (step.run w).run world
    ⟨run.exit, run.trace, run.world.state.catalog⟩ :: runSteps w steps run.world

/-- The trace of the wiring, and what each step leaves behind. -/
def Session.run (s : Session) : Trace × List (Observation Reading) :=
  let wired := s.setup.wire.run s.initial
  (wired.trace, match wired.exit with
    | .value w => runSteps w s.steps wired.world
    | .panicked _ => [])

end Switchboard.Scenario
