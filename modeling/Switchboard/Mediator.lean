import Switchboard.Config
import Switchboard.Registry

/-!
# The mediator

The entry point of callers. `send` dispatches a request to its one handler
through the interceptors of its type and hands back the outcome; `publish`
broadcasts a notification to every listener, one after the other in the order
of registration, each through a chain of its own.

The mediator keeps nothing between calls: handlers and interceptors are looked
up on every call, the interceptors of a notification anew for every listener.
It never looks into an outcome of a request, so a failure reaches the caller
as the very same failure.
-/

namespace Switchboard

structure Mediator (σ ρ ν : Type) [Requests ρ] [Messages ν] where
  lookup : Lookup σ ρ ν
  config : Config := {}

namespace Mediator

variable {σ ρ ν : Type} [Requests ρ] [Messages ν]

/-- Carries a chain out in a span, if calls are instrumented. -/
def instrumented {α : Type} (m : Mediator σ ρ ν) (span : Span) (a : Action σ α) : Action σ α :=
  if m.config.instrument then a.within span else a

/-! ## Requests -/

/-- The span around the chain of a request. -/
def sendSpan (k : ρ) : Span :=
  ⟨"send", [(Topic.request k).field]⟩

def send (m : Mediator σ ρ ν) (k : ρ) (request : Body k) (signal : Signal) :
    Action σ (Except DispatchError (Outcome (Reply k))) := do
  let type := (Topic.request k).field
  match ← m.lookup.handler k with
  | .error e =>
    Action.log .error "Dispatch failed" [type, ("error", e.message)]
    return .error e
  | .ok handler =>
    let interceptors ← m.lookup.interceptors k
    Action.log .debug "Dispatching request"
      [type, ("behaviors", Decimal.format interceptors.length)]
    let outcome ← m.instrumented (sendSpan k)
      (chain (.request k) handler interceptors request signal)
    Action.log .debug "Request completed" [type, ("ok", if outcome.isOk then "true" else "false")]
    return .ok outcome

/-! ## Notifications -/

/-- The span around the chain of one listener. -/
def publishSpan (n : ν) (index : Nat) : Span :=
  ⟨"publish", [(Topic.notification n).field, ("handler_index", Decimal.format index)]⟩

/-- Delivers a notification to one listener through a chain of its own. -/
def deliver (m : Mediator σ ρ ν) (n : ν) (notification : Body n) (signal : Signal)
    (index : Nat) (listener : Listener σ n) : Action σ (Outcome Unit) := do
  let interceptors ← m.lookup.listenerInterceptors n
  m.instrumented (publishSpan n index)
    (chain (.notification n) listener interceptors notification signal)

/-- The result of a broadcast that reached the last listener. -/
def broadcastResult (n : ν) (failures : List HandlerFailure) : Except DispatchError Unit :=
  if failures.isEmpty then .ok ()
  else .error (.notificationsFailed (Messages.name n) failures)

/-- Delivers to the listeners from number `index` on; `failures` are those of
the listeners before. -/
def broadcast (m : Mediator σ ρ ν) (n : ν) (notification : Body n) (signal : Signal)
    (index : Nat) (failures : List HandlerFailure) :
    List (Listener σ n) → Action σ (Except DispatchError Unit)
  | [] => pure (broadcastResult n failures)
  | listener :: rest => do
    let type := (Topic.notification n).field
    if ← Action.isCancelled signal then
      Action.log .debug "Publish cancelled, skipping remaining handlers"
        [type, ("delivered", Decimal.format index)]
      return .error (.publishCancelled (Messages.name n) index)
    match ← m.deliver n notification signal index listener with
    | .ok () => broadcast m n notification signal (index + 1) failures rest
    | .error e =>
      Action.log .warn "Notification handler failed"
        [type, ("handler_index", Decimal.format index), ("error", e.format)]
      match m.config.strategy with
      | .stopOnFirstError =>
        return .error (.notificationFailed (Messages.name n) ⟨index, e⟩)
      | .continueOnError =>
        broadcast m n notification signal (index + 1) (failures ++ [⟨index, e⟩]) rest

def publish (m : Mediator σ ρ ν) (n : ν) (notification : Body n) (signal : Signal) :
    Action σ (Except DispatchError Unit) := do
  let type := (Topic.notification n).field
  let listeners ← m.lookup.listeners n
  if listeners.isEmpty then
    Action.log .debug "No handlers registered, nothing to publish" [type]
    return .ok ()
  else
    Action.log .debug "Publishing notification"
      [type, ("handlers", Decimal.format listeners.length)]
    m.broadcast n notification signal 0 [] listeners

end Mediator

end Switchboard
