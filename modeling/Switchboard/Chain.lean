import Switchboard.Action
import Switchboard.Message

/-!
# Chains

A message reaches its handler through a chain of interceptors, the first
registered one outermost. An interceptor sees the message, the signal and
whether the handler is next. It either answers, and then nothing deeper runs,
or it lets the rest of the chain run, once, with a message and a signal of
its choice, and finishes from how that ended. `Verdict` has these two forms
and no third, so no interceptor can run the rest of its chain twice.

At the boundary to each link, the handler included, the signal is checked:
once cancellation has been requested no deeper link is entered, and the
boundary answers with a failure of kind `cancelled`.
-/

namespace Switchboard

variable {σ M R : Type}

/-- The terminal link of a chain. -/
abbrev Handler (σ M R : Type) := M → Signal → Action σ (Outcome R)

/-- What an interceptor does with a message. -/
inductive Verdict (σ M R : Type) where
  | answer (outcome : Outcome R)
  | proceed (message : M) (signal : Signal)
      (finish : Exit (Outcome R) → Action σ (Outcome R))

/-- Lets the rest of the chain run and finishes from its outcome; a panic in
the rest goes on unwinding. -/
def Verdict.forward (message : M) (signal : Signal)
    (finish : Outcome R → Action σ (Outcome R)) : Verdict σ M R :=
  .proceed message signal fun
    | .value o => finish o
    | .panicked p => Action.panic p

structure Interceptor (σ M R : Type) where
  name : String
  /-- The flag says whether the handler is the next link. -/
  enter : M → Signal → (handlerNext : Bool) → Action σ (Verdict σ M R)

/-- Enters a link unless the signal is cancelled. -/
def boundary (topic : Topic) (signal : Signal) (link : Action σ (Outcome R)) :
    Action σ (Outcome R) := do
  if ← Action.isCancelled signal then
    Action.log .debug "Cancelled before next link" [topic.field]
    Action.fail .cancelled
  else
    link

/-- The handler with the interceptors around it, the first one outermost. -/
def chain (topic : Topic) (handler : Handler σ M R) : List (Interceptor σ M R) → Handler σ M R
  | [], message, signal => boundary topic signal (handler message signal)
  | link :: rest, message, signal => boundary topic signal do
    match ← link.enter message signal rest.isEmpty with
    | .answer o => pure o
    | .proceed message signal finish =>
      finish (← (chain topic handler rest message signal).attempt)

end Switchboard
