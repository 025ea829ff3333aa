import Switchboard.Action

/-!
# The algebra of outcomes

Combinators on outcomes whose closures are actions: they may report, fail or
panic. A failure passes through `map` and `bind` as the very same failure, and
no combinator catches a panic.

Each has an asynchronous form. There a closure is called at once, which yields
a future, another action; the future is then awaited and may suspend itself.
-/

namespace Switchboard.Outcome

variable {σ α β τ : Type}

/-! ## Direct forms -/

def map (o : Outcome α) (f : α → Action σ β) : Action σ (Outcome β) :=
  match o with
  | .ok a => do return .ok (← f a)
  | .error e => pure (.error e)

/-- Chains an operation that may fail itself. -/
def bind (o : Outcome α) (f : α → Action σ (Outcome β)) : Action σ (Outcome β) :=
  match o with
  | .ok a => f a
  | .error e => pure (.error e)

/-- Acts on a success and hands the outcome on. -/
def onSuccess (o : Outcome α) (act : α → Action σ Unit) : Action σ (Outcome α) :=
  match o with
  | .ok a => do act a; return o
  | .error _ => pure o

/-- Acts on a failure and hands the outcome on. -/
def onFailure (o : Outcome α) (act : Failure → Action σ Unit) : Action σ (Outcome α) :=
  match o with
  | .ok _ => pure o
  | .error e => do act e; return o

/-- Takes exactly one of two branches. -/
def fold (o : Outcome α) (success : α → Action σ τ) (failure : Failure → Action σ τ) :
    Action σ τ :=
  match o with
  | .ok a => success a
  | .error e => failure e

/-! ## Asynchronous forms -/

def mapAsync (o : Outcome α) (f : α → Action σ (Action σ β)) : Action σ (Outcome β) :=
  match o with
  | .ok a => do
    let future ← f a
    return .ok (← future)
  | .error e => pure (.error e)

def bindAsync (o : Outcome α) (f : α → Action σ (Action σ (Outcome β))) :
    Action σ (Outcome β) :=
  match o with
  | .ok a => do
    let future ← f a
    future
  | .error e => pure (.error e)

def onSuccessAsync (o : Outcome α) (act : α → Action σ (Action σ Unit)) :
    Action σ (Outcome α) := do
  let pending ← match o with
    | .ok a => do pure (some (← act a))
    | .error _ => pure none
  if let some future := pending then
    future
  return o

def onFailureAsync (o : Outcome α) (act : Failure → Action σ (Action σ Unit)) :
    Action σ (Outcome α) := do
  let pending ← match o with
    | .ok _ => pure none
    | .error e => do pure (some (← act e))
  if let some future := pending then
    future
  return o

def foldAsync (o : Outcome α) (success : α → Action σ (Action σ τ))
    (failure : Failure → Action σ (Action σ τ)) : Action σ τ :=
  match o with
  | .ok a => do
    let future ← success a
    future
  | .error e => do
    let future ← failure e
    future

end Switchboard.Outcome
