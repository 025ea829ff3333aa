import Switchboard.Chain
import Switchboard.DispatchError

/-!
# The registry

Who handles what. A component is registered for one message type in one of
four places: as the handler of a request type, as an interceptor around it, as
a listener of a notification type, or as an interceptor around each of its
listeners. It is registered either as a singleton, one component shared by
every call, or as a factory that builds a component on every resolution.

A registry has four tables, each keyed by the message type. The tables are
typed: what is listed under a type are components for that type, where tables
keyed by a type's identity would hold erased lists and cast each of them back
when it is read. The cast cannot fail, since a list is only ever filled under
its own type, so nothing stands for its failure. The short name of a type, the
last part of its path and without its arguments, is not computed either but
given by `Messages.name`; types of one short name keep their own lists.

The mediator does not read a registry but asks a `Lookup`, of which
`Registry.lookup` is one.
-/

namespace Switchboard

/-- How a registered component is produced. -/
inductive Registration (σ α : Type) where
  | singleton (component : α)
  | factory (build : Action σ α)

namespace Registration

variable {σ α : Type}

def resolve : Registration σ α → Action σ α
  | singleton component => pure component
  | factory build => build

/-- Whether two resolutions yield the same component. -/
def isShared : Registration σ α → Bool
  | singleton _ => true
  | factory _ => false

end Registration

section

variable (σ : Type) {ρ ν : Type}

abbrev RequestHandler [Requests ρ] (k : ρ) := Handler σ (Body k) (Reply k)
abbrev RequestInterceptor [Requests ρ] (k : ρ) := Interceptor σ (Body k) (Reply k)
abbrev Listener [Messages ν] (n : ν) := Handler σ (Body n) Unit
abbrev ListenerInterceptor [Messages ν] (n : ν) := Interceptor σ (Body n) Unit

end

/-- A registration with its place. -/
inductive Entry (σ ρ ν : Type) [Requests ρ] [Messages ν] where
  | handler (k : ρ) (r : Registration σ (RequestHandler σ k))
  | interceptor (k : ρ) (r : Registration σ (RequestInterceptor σ k))
  | listener (n : ν) (r : Registration σ (Listener σ n))
  | listenerInterceptor (n : ν) (r : Registration σ (ListenerInterceptor σ n))

/-- Registrations by message type, each list in the order of registration. -/
structure Registry (σ ρ ν : Type) [Requests ρ] [Messages ν] where
  handlers : (k : ρ) → List (Registration σ (RequestHandler σ k))
  interceptors : (k : ρ) → List (Registration σ (RequestInterceptor σ k))
  listeners : (n : ν) → List (Registration σ (Listener σ n))
  listenerInterceptors : (n : ν) → List (Registration σ (ListenerInterceptor σ n))
  /-- Names of the request types with a handler, by their first one. -/
  requests : List String
  /-- Names of the notification types with a listener, by their first one. -/
  notifications : List String

/-- Appends an element to the list at one index of a table. -/
def appendAt {κ : Type} [DecidableEq κ] {β : κ → Type} (table : (k : κ) → List (β k))
    (k : κ) (b : β k) : (k : κ) → List (β k) :=
  fun i => if h : k = i then table i ++ [h ▸ b] else table i

namespace Registry

variable {σ ρ ν : Type} [Requests ρ] [Messages ν]

def empty : Registry σ ρ ν where
  handlers _ := []
  interceptors _ := []
  listeners _ := []
  listenerInterceptors _ := []
  requests := []
  notifications := []

def add [DecidableEq ρ] [DecidableEq ν] (r : Registry σ ρ ν) : Entry σ ρ ν → Registry σ ρ ν
  | .handler k c =>
    { r with
      handlers := appendAt r.handlers k c
      requests :=
        if (r.handlers k).isEmpty then r.requests ++ [Messages.name k] else r.requests }
  | .interceptor k c => { r with interceptors := appendAt r.interceptors k c }
  | .listener n c =>
    { r with
      listeners := appendAt r.listeners n c
      notifications :=
        if (r.listeners n).isEmpty then r.notifications ++ [Messages.name n]
        else r.notifications }
  | .listenerInterceptor n c =>
    { r with listenerInterceptors := appendAt r.listenerInterceptors n c }

/-- The registry of a list of registrations. -/
def ofList [DecidableEq ρ] [DecidableEq ν] (entries : List (Entry σ ρ ν)) : Registry σ ρ ν :=
  entries.foldl add empty

/-- Builds a registry and reports that it is complete. -/
def build [DecidableEq ρ] [DecidableEq ν] (entries : List (Entry σ ρ ν)) :
    Action σ (Registry σ ρ ν) := do
  let r := ofList entries
  Action.log .info "Handler registry built"
    [("requests", Decimal.format r.requests.length),
      ("notifications", Decimal.format r.notifications.length)]
  return r

end Registry

/-! ## Lookups -/

/-- What a mediator asks for on every call. Components come in the order in
which they are to run. -/
structure Lookup (σ ρ ν : Type) [Requests ρ] [Messages ν] where
  /-- The one handler of a request type. -/
  handler : (k : ρ) → Action σ (Except DispatchError (RequestHandler σ k))
  interceptors : (k : ρ) → Action σ (List (RequestInterceptor σ k))
  listeners : (n : ν) → Action σ (List (Listener σ n))
  listenerInterceptors : (n : ν) → Action σ (List (ListenerInterceptor σ n))

/-- Resolves registrations one after the other. -/
def resolveAll {σ α : Type} : List (Registration σ α) → Action σ (List α)
  | [] => pure []
  | r :: rs => do
    let c ← r.resolve
    let cs ← resolveAll rs
    return c :: cs

namespace Registry

variable {σ ρ ν : Type} [Requests ρ] [Messages ν]

/-- The one handler of a request type; having none or several is an error, and
then nothing is built. -/
def resolveHandler (r : Registry σ ρ ν) (k : ρ) :
    Action σ (Except DispatchError (RequestHandler σ k)) :=
  match r.handlers k with
  | [] => pure (.error (.missingHandler (Messages.name k)))
  | [only] => do return .ok (← only.resolve)
  | many => pure (.error (.ambiguousHandler (Messages.name k) many.length))

def lookup (r : Registry σ ρ ν) : Lookup σ ρ ν where
  handler := r.resolveHandler
  interceptors k := resolveAll (r.interceptors k)
  listeners n := resolveAll (r.listeners n)
  listenerInterceptors n := resolveAll (r.listenerInterceptors n)

end Registry

/-- A lookup that records each question before it passes it on. -/
def Lookup.traced {σ ρ ν : Type} [Requests ρ] [Messages ν] (l : Lookup σ ρ ν) :
    Lookup σ ρ ν where
  handler k := do
    Action.record ("resolve handler " ++ Messages.name k)
    l.handler k
  interceptors k := do
    Action.record ("resolve behaviors " ++ Messages.name k)
    l.interceptors k
  listeners n := do
    Action.record ("resolve notification handlers " ++ Messages.name n)
    l.listeners n
  listenerInterceptors n := do
    Action.record ("resolve notification behaviors " ++ Messages.name n)
    l.listenerInterceptors n

end Switchboard
