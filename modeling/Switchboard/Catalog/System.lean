import Switchboard.Catalog.Client
import Switchboard.Catalog.Config
import Switchboard.Catalog.Handler
import Switchboard.Catalog.Validation
import Switchboard.Interceptor.Logging
import Switchboard.Interceptor.PanicBoundary
import Switchboard.Text.Described

/-!
# The wired catalog

Every handler, interceptor and listener of the catalog in one registry:

- `CreateItem`, `RenameItem`: logging, validation, handler;
- `GetItem`, `DeleteItem`: logging, handler;
- `ItemCreated`, `ItemDeleted`: logging, panic boundary, around the audit log
  and around the search index;
- `ItemRenamed`: logging, panic boundary, around the search index.

Logging is outermost, so that rejected requests are logged too.
-/

namespace Switchboard.Catalog

variable {σ ρ ν : Type} [Holder σ] [Requests ρ] [Messages ν]

/-- The handler of a request type with the interceptors around it. -/
def requestEntries (k : Request) (validators : List (Interceptor σ (Body k) (Reply k))) :
    List (Entry σ (Request ⊕ ρ) (Notification ⊕ ν)) :=
  [.handler (.inl k) (.singleton (handler k)),
    .interceptor (.inl k) (.singleton (.logging k))] ++
  validators.map fun v => .interceptor (.inl k) (.singleton v)

/-- The listeners of a notification type with the interceptors around each. -/
def notificationEntries (n : Notification) (listeners : List (Handler σ (Body n) Unit)) :
    List (Entry σ (Request ⊕ ρ) (Notification ⊕ ν)) :=
  (listeners.map fun l => .listener (.inl n) (.singleton l)) ++
  [.listenerInterceptor (.inl n) (.singleton (.listenerLogging n)),
    .listenerInterceptor (.inl n) (.singleton (.panicBoundary (.notification n)))]

/-- Every registration of the catalog. -/
def entries (limit : Nat) : List (Entry σ (Request ⊕ ρ) (Notification ⊕ ν)) :=
  requestEntries .create [.validation (.request Request.create) (validateCreate limit)] ++
  requestEntries .get [] ++
  requestEntries .rename [.validation (.request Request.rename) (validateRename limit)] ++
  requestEntries .delete [] ++
  notificationEntries .created [auditListener .created, indexListener .created] ++
  notificationEntries .renamed [indexListener .renamed] ++
  notificationEntries .deleted [auditListener .deleted, indexListener .deleted]

/-- A list of names in diagnostics. -/
def describeNames (names : List String) : String :=
  Text.describeList (names.map Text.quote)

/-- Builds the registry of the catalog and reports the wiring. -/
def wire [DecidableEq ρ] [DecidableEq ν] (config : Config) :
    Action σ (Registry σ (Request ⊕ ρ) (Notification ⊕ ν)) := do
  let registry ← Registry.build (entries config.maxNameLength.toNat)
  Action.log .info "Catalog wired"
    [("requests", describeNames registry.requests),
      ("notifications", describeNames registry.notifications),
      ("publish_strategy", config.strategy.name)]
  return registry

/-- The mediator over the registry of the catalog. -/
def mediator (config : Config) (registry : Registry σ (Request ⊕ ρ) (Notification ⊕ ν)) :
    Mediator σ (Request ⊕ ρ) (Notification ⊕ ν) :=
  { lookup := registry.lookup, config := config.mediator }

end Switchboard.Catalog
