import Switchboard.Action
import Switchboard.Catalog.Index
import Switchboard.Catalog.Store

/-!
# The state of the catalog

What the components of the catalog share: the store, the audit log and the
search index. Components work on any state that holds these three, so that
the catalog can be wired into a larger application.
-/

namespace Switchboard.Catalog

structure State where
  store : Store := {}
  /-- One entry per announced change, oldest first. -/
  audit : List String := []
  index : Index := .empty

/-- A state that holds the state of a catalog. -/
class Holder (σ : Type) where
  view : σ → State
  update : σ → State → σ

instance : Holder State where
  view s := s
  update _ s := s

variable {σ α : Type} [Holder σ]

def state : Action σ State :=
  return Holder.view (← Action.state)

def modify (f : State → State) : Action σ Unit :=
  Action.modifyState fun s => Holder.update s (f (Holder.view s))

/-- Carries out an operation of the store: commits the new store, or makes the
failure. -/
def commit (operation : Store → Except Failure.Cause (α × Store)) : Action σ (Outcome α) := do
  match operation (← state).store with
  | .ok (a, store) =>
    modify fun s => { s with store }
    return .ok a
  | .error cause => Action.fail cause

def insertItem (name : String) (price : Binary64) : Action σ (Outcome Item) := do
  let outcome ← commit (·.insert name price)
  if let .ok item := outcome then
    Action.log .debug "Item stored" [("id", item.id.format)]
  return outcome

def renameItem (id : ItemId) (name : String) : Action σ (Outcome Item) :=
  commit (·.rename id name)

def removeItem (id : ItemId) : Action σ (Outcome Item) :=
  commit (·.remove id)

end Switchboard.Catalog
