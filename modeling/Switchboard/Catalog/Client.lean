import Switchboard.Catalog.Error
import Switchboard.Catalog.Message
import Switchboard.Decimal.Fixed
import Switchboard.Mediator
import Switchboard.Text.Blank

/-!
# The catalog client

Catalog operations over a mediator. Each write sends its request and, once it
is committed, publishes the matching notification. Both kinds of error become
a `Catalog.Error`.

A committed write succeeds for the caller: a listener that fails, or a
cancellation while the change is announced, is logged and not returned.
-/

namespace Switchboard.Catalog

/-- A client of a mediator whose messages include those of the catalog. -/
structure Client (σ ρ ν : Type) [Requests ρ] [Messages ν] where
  mediator : Mediator σ (Request ⊕ ρ) (Notification ⊕ ν)
  /-- Observed by every call. -/
  signal : Signal := .never

namespace Client

variable {σ ρ ν : Type} [Requests ρ] [Messages ν]

def withSignal (c : Client σ ρ ν) (signal : Signal) : Client σ ρ ν :=
  { c with signal }

/-- Sends a request of the catalog. -/
def request (c : Client σ ρ ν) (k : Request) (body : Body k) :
    Action σ (Except DispatchError (Outcome (Reply k))) :=
  c.mediator.send (.inl k) body c.signal

/-- Publishes a change that is already committed. -/
def announce (c : Client σ ρ ν) (n : Notification) (event : Body n) : Action σ Unit := do
  if let .error e ← c.mediator.publish (.inl n) event c.signal then
    Action.log .warn "Change committed but not fully announced" [("error", e.message)]

/-- Reports that a request goes out. -/
def sending : Action σ Unit :=
  Action.log .debug "Sending request" []

/-- What a read of an item that must exist finds. -/
def found (id : ItemId) : Option Item → Action σ (Outcome Item)
  | some item => pure (.ok item)
  | none => Action.fail (.notFound id.format)

/-- The line that describes an item. -/
def line (item : Item) : String :=
  item.id.format ++ " '" ++ item.name ++ "' at " ++ Decimal.formatFixed 2 item.price

def create (c : Client σ ρ ν) (name : String) (price : Binary64) :
    Action σ (Except Error ItemId) :=
  Action.within ⟨"create_item", [("name", name), ("price", Decimal.formatDiagnostic price)]⟩ do
    sending
    match ← c.request .create ⟨name, price⟩ with
    | .error e => return .error (.dispatch e)
    | .ok (.error f) =>
      Action.log .warn "Item not created" [("code", f.code)]
      return .error (.ofFailure f)
    | .ok (.ok id) =>
      c.announce .created ⟨id, Text.trim name⟩
      return .ok id

def get (c : Client σ ρ ν) (id : ItemId) : Action σ (Except Error (Option Item)) :=
  Action.within ⟨"get_item", [("id", id.describe)]⟩ do
    sending
    match ← c.request .get ⟨id⟩ with
    | .error e => return .error (.dispatch e)
    | .ok (.error f) => return .error (.ofFailure f)
    | .ok (.ok item) => return .ok item

/-- Reads an item that must exist. -/
def require (c : Client σ ρ ν) (id : ItemId) : Action σ (Except Error Item) :=
  Action.within ⟨"require_item", [("id", id.describe)]⟩ do
    match ← c.request .get ⟨id⟩ with
    | .error e => return .error (.dispatch e)
    | .ok (.error f) => return .error (.ofFailure f)
    | .ok (.ok item) =>
      match ← found id item with
      | .ok item => return .ok item
      | .error f => return .error (.ofFailure f)

def rename (c : Client σ ρ ν) (id : ItemId) (name : String) :
    Action σ (Except Error Item) :=
  Action.within ⟨"rename_item", [("id", id.describe), ("name", name)]⟩ do
    sending
    match ← c.request .rename ⟨id, name⟩ with
    | .error e => return .error (.dispatch e)
    | .ok (.error f) => return .error (.ofFailure f)
    | .ok (.ok (item : Item)) =>
      c.announce .renamed ⟨item.id, item.name⟩
      return .ok item

def delete (c : Client σ ρ ν) (id : ItemId) : Action σ (Except Error Unit) :=
  Action.within ⟨"delete_item", [("id", id.describe)]⟩ do
    sending
    match ← c.request .delete ⟨id⟩ with
    | .error e => return .error (.dispatch e)
    | .ok (.error f) => return .error (.ofFailure f)
    | .ok (.ok ()) =>
      c.announce .deleted ⟨id⟩
      return .ok ()

/-- A line about an item, or the reason why there is none. -/
def describe (c : Client σ ρ ν) (id : ItemId) : Action σ (Except Error String) :=
  Action.within ⟨"describe_item", [("id", id.describe)]⟩ do
    match ← c.request .get ⟨id⟩ with
    | .error e => return .error (.dispatch e)
    | .ok (.error f) => return .ok f.message
    | .ok (.ok item) =>
      match ← found id item with
      | .ok item => return .ok (line item)
      | .error f => return .ok f.message

end Client

end Switchboard.Catalog
