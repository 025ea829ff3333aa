import Switchboard.Chain

/-!
# Test doubles

Handlers and interceptors for exercising a chain: they record in the journal
that they ran, answer what they are told to, or cut the chain short.
-/

namespace Switchboard

variable {σ M R : Type}

/-- Records its name and answers a fixed value. -/
def Handler.recording (name : String) (reply : R) : Handler σ M R := fun _ _ => do
  Action.record name
  return .ok reply

/-- Records its name and fails with a given failure. -/
def Handler.failing (name : String) (failure : Failure) : Handler σ M R := fun _ _ => do
  Action.record name
  return .error failure

namespace Interceptor

/-- Records that the rest of the chain begins and that it has ended. -/
def recording (name : String) : Interceptor σ M R where
  name := "RecordingBehavior"
  enter message signal _ := do
    Action.record (name ++ "-before")
    return .forward message signal fun o => do
      Action.record (name ++ "-after")
      return o

/-- Answers with a given failure; nothing deeper runs. -/
def shortCircuit (failure : Failure) : Interceptor σ M R where
  name := "ShortCircuitBehavior"
  enter _ _ _ := pure (.answer (.error failure))

end Interceptor

end Switchboard
