import Switchboard.Chain

/-!
# Logging

Logs every message that passes: at `debug` on the way in, and on the way out
at `info` if the rest of the chain succeeded and at `warn` if it failed. The
outcome is handed on untouched.
-/

namespace Switchboard.Interceptor

variable {σ κ : Type}

/-- Logging around the handler of a request type. -/
def logging [Requests κ] (k : κ) : Interceptor σ (Body k) (Reply k) where
  name := "LoggingBehavior"
  enter request signal _ := do
    let type := (Topic.request k).field
    Action.log .debug "Handling request" [type, ("request", Messages.describe k request)]
    return .forward request signal fun o => do
      match o with
      | .ok _ => Action.log .info "Request handled" [type]
      | .error e => Action.log .warn "Request failed" [type, ("code", e.code), ("error", e.format)]
      return o

/-- Logging around each listener of a notification type. -/
def listenerLogging [Messages κ] (k : κ) : Interceptor σ (Body k) Unit where
  name := "LoggingBehavior"
  enter notification signal _ := do
    let type := (Topic.notification k).field
    Action.log .debug "Handling notification"
      [type, ("notification", Messages.describe k notification)]
    return .forward notification signal fun o => do
      match o with
      | .ok _ => Action.log .info "Notification handled" [type]
      | .error e => Action.log .warn "Notification handler failed" [type, ("error", e.format)]
      return o

end Switchboard.Interceptor
