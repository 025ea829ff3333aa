import Switchboard.Catalog.Handler
import Switchboard.Catalog.Validation
import Switchboard.Interceptor.Double
import Switchboard.Interceptor.Logging
import Switchboard.Interceptor.PanicBoundary
import Switchboard.Scenario.Script

/-!
# Registrations of scenarios

The components that a scenario can register, as data, and what they stand
for. A registration is a singleton or a factory; a factory records each of its
builds, and a placeholder in the name of its components is replaced by the
number of builds before.
-/

namespace Switchboard.Scenario

inductive HandlerSpec (k : Request) where
  | recording (reply : Reply k)
  /-- A clone of the mock of this name. -/
  | mock (id : String)
  /-- The catalog's own handler, for the requests of the catalog. -/
  | catalog
  | script (script : HandlerScript (Reply k))

inductive ListenerSpec where
  | recording
  | failing (failure : Failure)
  /-- The audit log, for the notifications of the catalog. -/
  | audit
  /-- The search index, for the notifications of the catalog. -/
  | search
  | script (script : HandlerScript Unit)

/-- When a validator finds its errors. -/
inductive Trigger where
  | always
  /-- For numbers below zero only. -/
  | negative

/-- Interceptors around the handler of a request type. -/
inductive InterceptorSpec (k : Request) where
  | logging
  | panicBoundary
  | recording
  | shortCircuit (failure : Failure)
  | validation (errors : List FieldError) (trigger : Trigger)
  /-- The catalog's own validator with a length limit. -/
  | catalogValidation (limit : Nat)
  | script (script : InterceptorScript (Body k) (Reply k))

/-- Interceptors around each listener of a notification type. -/
inductive ListenerInterceptorSpec (n : Notification) where
  | logging
  | panicBoundary
  | recording
  | script (script : InterceptorScript (Body n) Unit)

inductive Place where
  | handler (k : Request) (spec : HandlerSpec k)
  | interceptor (k : Request) (spec : InterceptorSpec k)
  | listener (n : Notification) (spec : ListenerSpec)
  | listenerInterceptor (n : Notification) (spec : ListenerInterceptorSpec n)

structure RegistrationSpec where
  name : String
  factory : Bool
  place : Place

/-! ## Components -/

/-- The number that a request carries, if it carries one. -/
def carried? : (k : Request) → Body k → Option Int64
  | .inr .alpha, (m : Alpha) => some m.value
  | .inr .wrapperAlpha, (m : Wrapper Alpha) => some m.inner.value
  | _, _ => none

def Trigger.holds : Trigger → (k : Request) → Body k → Bool
  | .always, _, _ => true
  | .negative, k, request => (carried? k request).any (· < 0)

/-- The catalog's validator for a request; those that have none pass. -/
def catalogValidator (limit : Nat) : (k : Request) → Interceptor.Validator (Body k)
  | .inl .create => Catalog.validateCreate limit
  | .inl .rename => Catalog.validateRename limit
  | _ => fun _ => []

def HandlerSpec.handler (gateway : Gateway) (name : String) (k : Request) :
    HandlerSpec k → RequestHandler State k
  | .recording reply => .recording name reply
  | .mock id =>
    let clone := (Mock.Handle.named id).clone
    Mock.handler (·.mock clone k) (·.setMock clone k)
  | .catalog => match k with
    | .inl k => Catalog.handler k
    | .inr k => fun _ _ => pure (.ok (blank (.inr k)))
  | .script s => s.handler gateway (echo k) name

def InterceptorSpec.interceptor (gateway : Gateway) (name : String) (k : Request) :
    InterceptorSpec k → RequestInterceptor State k
  | .logging => .logging k
  | .panicBoundary => .panicBoundary (.request k)
  | .recording => .recording name
  | .shortCircuit failure => .shortCircuit failure
  | .validation errors trigger =>
    .validation (.request k) fun request => if trigger.holds k request then errors else []
  | .catalogValidation limit => .validation (.request k) (catalogValidator limit k)
  | .script s => s.interceptor gateway "Scripted" (echo k) (bump · k) name

def ListenerSpec.listener (gateway : Gateway) (name : String) (n : Notification) :
    ListenerSpec → Listener State n
  | .recording => .recording name ()
  | .failing failure => .failing name failure
  | .audit => match n with
    | .inl n => Catalog.auditListener n
    | .inr _ => fun _ _ => pure (.ok ())
  | .search => match n with
    | .inl n => Catalog.indexListener n
    | .inr _ => fun _ _ => pure (.ok ())
  | .script s => s.handler gateway (fun _ => ()) name

def ListenerInterceptorSpec.interceptor (gateway : Gateway) (name : String) (n : Notification) :
    ListenerInterceptorSpec n → ListenerInterceptor State n
  | .logging => .listenerLogging n
  | .panicBoundary => .panicBoundary (.notification n)
  | .recording => .recording name
  | .script s => s.interceptor gateway "Script" (fun _ => ()) (fun _ r => r) name

/-! ## Registrations -/

/-- The name of the component that a factory builds after so many others. -/
def buildName (template : String) (earlier : Nat) : String :=
  template.replace "\x7bn\x7d" (Decimal.format earlier)

/-- Registers a component by its name, at a place in the list of registrations. -/
def RegistrationSpec.registration {α : Type} (spec : RegistrationSpec) (place : Nat)
    (component : String → α) : Registration State α :=
  if spec.factory then
    .factory do
      let s ← Action.state
      let name := buildName spec.name (s.buildsOf place)
      Action.setState (s.countBuild place)
      Action.record ("build " ++ name)
      return component name
  else
    .singleton (component spec.name)

def RegistrationSpec.entry (gateway : Gateway) (place : Nat) (spec : RegistrationSpec) :
    Entry State Request Notification :=
  match spec.place with
  | .handler k c => .handler k (spec.registration place fun name => c.handler gateway name k)
  | .interceptor k c =>
    .interceptor k (spec.registration place fun name => c.interceptor gateway name k)
  | .listener n c => .listener n (spec.registration place fun name => c.listener gateway name n)
  | .listenerInterceptor n c =>
    .listenerInterceptor n (spec.registration place fun name => c.interceptor gateway name n)

end Switchboard.Scenario
