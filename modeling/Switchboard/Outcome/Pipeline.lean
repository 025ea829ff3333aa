import Switchboard.Outcome

/-!
# Pipelines on outcomes

A pipeline is a list of stages, each one combinator with its closures, that
replace an outcome one after the other. A stage is taken in the direct form
or in the asynchronous one; in the latter the future that a closure yields is
pending a number of times before it does the same work.
-/

namespace Switchboard.Pipeline

variable {σ α : Type}

inductive Step (σ α : Type) where
  | map (f : α → Action σ α)
  | bind (f : α → Action σ (Outcome α))
  | onSuccess (act : α → Action σ Unit)
  | onFailure (act : Failure → Action σ Unit)
  | fold (success : α → Action σ (Outcome α)) (failure : Failure → Action σ (Outcome α))

inductive Form where
  | direct
  /-- The future of a closure is pending this many times. -/
  | async (yields : Nat)
deriving DecidableEq, Repr

structure Stage (σ α : Type) where
  step : Step σ α
  form : Form := .direct

/-- A closure that yields its work as a future, pending a number of times. -/
def deferred {β τ : Type} (yields : Nat) (f : β → Action σ τ) (b : β) : Action σ (Action σ τ) :=
  pure ((f b).delay yields)

def Stage.run (stage : Stage σ α) (o : Outcome α) : Action σ (Outcome α) :=
  match stage.form with
  | .direct => match stage.step with
    | .map f => Outcome.map o f
    | .bind f => Outcome.bind o f
    | .onSuccess act => Outcome.onSuccess o act
    | .onFailure act => Outcome.onFailure o act
    | .fold success failure => Outcome.fold o success failure
  | .async yields => match stage.step with
    | .map f => Outcome.mapAsync o (deferred yields f)
    | .bind f => Outcome.bindAsync o (deferred yields f)
    | .onSuccess act => Outcome.onSuccessAsync o (deferred yields act)
    | .onFailure act => Outcome.onFailureAsync o (deferred yields act)
    | .fold success failure => Outcome.foldAsync o (deferred yields success) (deferred yields failure)

/-- Whether a step calls a closure on an outcome. -/
def Step.calls (step : Step σ α) (o : Outcome α) : Bool :=
  match step, o with
  | .map _, .ok _ => true
  | .bind _, .ok _ => true
  | .onSuccess _, .ok _ => true
  | .onFailure _, .error _ => true
  | .fold _ _, _ => true
  | _, _ => false

/-- What is seen of one stage. `polls` counts how often its future is polled,
which a stage in the direct form does not have. -/
structure Observation (α : Type) where
  exit : Exit (Outcome α)
  called : Bool
  journal : List String
  polls : Nat

def Stage.observe (stage : Stage σ α) (o : Outcome α) (w : World σ) :
    Observation α × World σ :=
  let action := stage.run o
  let run := action.run w
  let polls := match stage.form with
    | .direct => 0
    | .async _ => action.polls w
  (⟨run.exit, stage.step.calls o, run.trace.journal, polls⟩, run.world)

/-- Runs the stages one after the other; a panic ends the pipeline. -/
def observe : List (Stage σ α) → Outcome α → World σ → List (Observation α)
  | [], _, _ => []
  | stage :: stages, o, w =>
    let (seen, w) := stage.observe o w
    seen :: match seen.exit with
      | .value o => observe stages o w
      | .panicked _ => []

end Switchboard.Pipeline
