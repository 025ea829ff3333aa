import Switchboard.Failure
import Switchboard.Decimal.Digits

/-!
# Dispatch errors

What keeps a call from being carried out as wired. They are kept apart from
failures: a failure is an outcome that travels through the chain as data,
a dispatch error is reported by the mediator itself, beside the outcome.
-/

namespace Switchboard

/-- A listener that failed, by its place in the order of registration. -/
structure HandlerFailure where
  index : Nat
  failure : Failure
deriving DecidableEq, Repr

inductive DispatchError where
  /-- Nothing handles requests of this type. -/
  | missingHandler (type : String)
  /-- More than one handler for requests of this type. -/
  | ambiguousHandler (type : String) (count : Nat)
  /-- A listener failed and the broadcast stopped there. -/
  | notificationFailed (type : String) (failure : HandlerFailure)
  /-- Listeners failed; every one was run. -/
  | notificationsFailed (type : String) (failures : List HandlerFailure)
  /-- The broadcast was cancelled before listener number `delivered`. -/
  | publishCancelled (type : String) (delivered : Nat)
deriving DecidableEq, Repr

namespace DispatchError

/-- A defect of the wiring, which no retry can mend. -/
def isConfiguration : DispatchError → Bool
  | missingHandler .. | ambiguousHandler .. => true
  | _ => false

/-- The failures that listeners reported, in their order. -/
def handlerFailures : DispatchError → List HandlerFailure
  | notificationFailed _ f => [f]
  | notificationsFailed _ fs => fs
  | _ => []

/-- The failure that this error passes on as its own source. -/
def source? : DispatchError → Option Failure
  | notificationFailed _ f => some f.failure
  | _ => none

def message : DispatchError → String
  | missingHandler type => "No handler registered for request " ++ type
  | ambiguousHandler type count =>
    Decimal.format count ++ " handlers registered for request " ++ type ++ ", expected exactly one"
  | notificationFailed type f =>
    "Notification handler #" ++ Decimal.format f.index ++ " for " ++ type ++ " failed: " ++
      f.failure.format
  | notificationsFailed type fs =>
    Decimal.format fs.length ++ " notification handler(s) for " ++ type ++ " failed"
  | publishCancelled type delivered =>
    "Publishing " ++ type ++ " was cancelled after " ++ Decimal.format delivered ++ " handler(s)"

end DispatchError

end Switchboard
