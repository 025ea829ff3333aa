import Switchboard.Chain

/-!
# Panic boundary

Turns a panic deeper in the chain into a failure of kind `unexpected`, and logs
it. The event has a field for the text of the panic that is called `message`, so
an observer sees that text as its message. Without a boundary a panic unwinds
through the whole chain to the caller.
-/

namespace Switchboard.Interceptor

variable {σ M R : Type}

/-- The message of the failure that stands for a panic. -/
def panicMessage (p : Panic) : String :=
  p.message?.getD "handler panicked"

/-- The event of a panic that was caught. -/
def panicEvent (topic : Topic) (p : Panic) : Event where
  level := .warn
  message := panicMessage p
  fields := [topic.field]
  headline := match topic.role with
    | .request => some "Handler panicked"
    | .notification => some "Notification handler panicked"

def panicBoundary (topic : Topic) : Interceptor σ M R where
  name := "PanicBoundary"
  enter message signal _ := pure <| .proceed message signal fun
    | .value o => pure o
    | .panicked p => do
      Action.emit (panicEvent topic p)
      Action.fail (.unexpected (panicMessage p))

end Switchboard.Interceptor
