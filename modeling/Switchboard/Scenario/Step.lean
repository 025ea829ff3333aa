import Switchboard.Catalog.Call
import Switchboard.Catalog.Handler
import Switchboard.Scenario.Component

/-!
# Steps of scenarios

What a scenario does with a wired mediator, one step at a time, and what each
step answers.
-/

namespace Switchboard.Scenario

/-- What calls of the catalog client answer on success. -/
abbrev ClientReply := Catalog.Call.Reply

/-- Operations of the item store itself. -/
inductive StoreCall where
  | insert (name : String) (price : Binary64)
  | get (id : Catalog.ItemId)
  | rename (id : Catalog.ItemId) (name : String)
  | remove (id : Catalog.ItemId)

inductive Step where
  /-- Through the traced mediator, if `traced` is set. -/
  | send (k : Request) (request : Body k) (signal : Signal) (traced : Bool)
  | publish (n : Notification) (notification : Body n) (signal : Signal) (traced : Bool)
  | cancel (source : SourceId)
  | dropSource (source : SourceId)
  /-- Makes a mock expect one more request. -/
  | expect (id : String) (k : Request) (outcome : Outcome (Reply k))
  | calls (mock : String)
  | verify (mock : String)
  | registered
  | config
  | requestInfo (k : Request)
  | notificationInfo (n : Notification)
  /-- Calls the catalog's own handler without the mediator. -/
  | direct (k : Catalog.Request) (request : Body k) (signal : Signal)
  | client (call : Catalog.Call) (signal : Signal)
  | search (term : String)
  | audit
  | index
  | store
  | storeCall (call : StoreCall)

/-- What is known of a request type: how many handlers and interceptors it
has, the names of the latter, and which resolutions share their component. -/
structure RequestInfo where
  handlers : Nat
  names : List String
  shared : List Bool
  handlerShared : Except DispatchError Bool

structure NotificationInfo where
  names : List String
  handlersShared : List Bool
  shared : List Bool

inductive Reading where
  | unit
  | sent (k : Request) (result : Except DispatchError (Outcome (Reply k)))
  | published (result : Except DispatchError Unit)
  | count (n : Nat)
  /-- Every expectation of a mock was met. -/
  | met
  | registered (requests notifications : List String)
  | config (config : Config)
  | requestInfo (info : RequestInfo)
  | notificationInfo (info : NotificationInfo)
  | outcome (k : Request) (outcome : Outcome (Reply k))
  | client (result : Except Catalog.Error ClientReply)
  | ids (ids : List Catalog.ItemId)
  | texts (texts : List String)
  | size (n : Nat)
  | stored (outcome : Outcome Catalog.Item)
  | found (item : Option Catalog.Item)

/-- What steps work with. -/
structure Wiring where
  registry : Registry State Request Notification
  config : Config

namespace Wiring

def mediator (w : Wiring) : Mediator State Request Notification :=
  { lookup := w.registry.lookup, config := w.config }

/-- A mediator that records what it looks up. -/
def tracedMediator (w : Wiring) : Mediator State Request Notification :=
  { lookup := w.registry.lookup.traced, config := w.config }

def choose (w : Wiring) (traced : Bool) : Mediator State Request Notification :=
  if traced then w.tracedMediator else w.mediator

def client (w : Wiring) (signal : Signal) :
    Catalog.Client State PlainRequest PlainNotification :=
  { mediator := w.mediator, signal }

/-- Resolves the interceptors twice, then the handler twice. -/
def requestInfo (w : Wiring) (k : Request) : Action State RequestInfo := do
  let interceptors ← w.registry.lookup.interceptors k
  let _ ← w.registry.lookup.interceptors k
  let handler ← w.registry.lookup.handler k
  let _ ← w.registry.lookup.handler k
  let registrations := w.registry.handlers k
  return {
    handlers := registrations.length
    names := interceptors.map (·.name)
    shared := (w.registry.interceptors k).map (·.isShared)
    handlerShared := handler.map fun _ => registrations.all (·.isShared) }

/-- Resolves the listeners twice, then the interceptors twice. -/
def notificationInfo (w : Wiring) (n : Notification) : Action State NotificationInfo := do
  let _ ← w.registry.lookup.listeners n
  let _ ← w.registry.lookup.listeners n
  let interceptors ← w.registry.lookup.listenerInterceptors n
  let _ ← w.registry.lookup.listenerInterceptors n
  return {
    names := interceptors.map (·.name)
    handlersShared := (w.registry.listeners n).map (·.isShared)
    shared := (w.registry.listenerInterceptors n).map (·.isShared) }

end Wiring

/-! ## Carrying steps out -/

def StoreCall.run : StoreCall → Action State Reading
  | .insert name price => do return .stored (← Catalog.insertItem name price)
  | .get id => do return .found ((← Catalog.state).store.get? id)
  | .rename id name => do return .stored (← Catalog.renameItem id name)
  | .remove id => do return .stored (← Catalog.removeItem id)

def Step.run (w : Wiring) : Step → Action State Reading
  | .send k request signal traced => do
    return .sent k (← (w.choose traced).send k request signal)
  | .publish n notification signal traced => do
    return .published (← (w.choose traced).publish n notification signal)
  | .cancel id => Action.cancel id (pure .unit)
  | .dropSource id => Action.drop id (pure .unit)
  | .expect id k outcome => do
    let h := Mock.Handle.named id
    Action.modifyState fun s => s.setMock h k ((s.mock h k).expect outcome)
    return .unit
  | .calls id => do
    return .count ((((← Action.state).findMock? id).map (·.mock.calls)).getD 0)
  | .verify id => do
    match (← Action.state).findMock? id with
    | some m => do Action.resume m.mock.verify; return .met
    | none => return .met
  | .registered => return .registered w.registry.requests w.registry.notifications
  | .config => return .config w.config
  | .requestInfo k => do return .requestInfo (← w.requestInfo k)
  | .notificationInfo n => do return .notificationInfo (← w.notificationInfo n)
  | .direct k request signal => do
    return .outcome (.inl k) (← Catalog.handler k request signal)
  | .client call signal => do return .client (← call.run (w.client signal))
  | .search term => do return .ids ((← Catalog.state).index.search term)
  | .audit => do return .texts (← Catalog.state).audit
  | .index => do return .size (← Catalog.state).index.length
  | .store => do return .size (← Catalog.state).store.size
  | .storeCall call => call.run

end Switchboard.Scenario
