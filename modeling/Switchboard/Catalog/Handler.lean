import Switchboard.Catalog.Message
import Switchboard.Catalog.State
import Switchboard.Chain
import Switchboard.Text.Blank

/-!
# Handlers and listeners of the catalog

One handler per request type. They take validation for granted and enforce
only what needs the store: that an item exists and that names are unique.
Names are trimmed before they are stored.

Two listeners follow the changes: the audit log keeps an entry per creation
and deletion, the search index keeps the names of the live items.
-/

namespace Switchboard.Catalog

variable {σ : Type} [Holder σ]

/-! ## Requests -/

/-- Goes on unless the signal is cancelled. -/
def unlessCancelled {α : Type} (signal : Signal) (act : Action σ (Outcome α)) :
    Action σ (Outcome α) := do
  match ← Action.check signal with
  | .ok () => act
  | .error e => return .error e

def handleCreate : Handler σ CreateItem ItemId := fun request signal =>
  unlessCancelled signal do
    match ← insertItem (Text.trim request.name) request.price with
    | .ok item =>
      Action.log .info "Item created" [("id", item.id.format), ("name", item.name)]
      return .ok item.id
    | .error e => return .error e

def handleGet : Handler σ GetItem (Option Item) := fun request _ => do
  let item := (← state).store.get? request.id
  Action.log .debug "Item lookup"
    [("id", request.id.format), ("found", if item.isSome then "true" else "false")]
  return .ok item

def handleRename : Handler σ RenameItem Item := fun request signal =>
  unlessCancelled signal do
    match ← renameItem request.id (Text.trim request.name) with
    | .ok item =>
      Action.log .info "Item renamed" [("id", item.id.format), ("name", item.name)]
      return .ok item
    | .error e => return .error e

def handleDelete : Handler σ DeleteItem Unit := fun request signal =>
  unlessCancelled signal do
    match ← removeItem request.id with
    | .ok item =>
      Action.log .info "Item deleted" [("id", item.id.format)]
      return .ok ()
    | .error e => return .error e

def handler : (k : Request) → Handler σ (Body k) (Reply k)
  | .create => handleCreate
  | .get => handleGet
  | .rename => handleRename
  | .delete => handleDelete

/-! ## Notifications -/

/-- The audit entry of a notification; renames leave none. -/
def auditLine? : (n : Notification) → Body n → Option String
  | .created, (e : ItemCreated) => some ("created " ++ e.id.format ++ " '" ++ e.name ++ "'")
  | .renamed, _ => none
  | .deleted, (e : ItemDeleted) => some ("deleted " ++ e.id.format)

/-- The effect of a notification on the search index. -/
def indexChange : (n : Notification) → Body n → Index → Index
  | .created, (e : ItemCreated), index => index.put e.id e.name
  | .renamed, (e : ItemRenamed), index => index.put e.id e.name
  | .deleted, (e : ItemDeleted), index => index.remove e.id

def auditListener (n : Notification) : Handler σ (Body n) Unit := fun event _ => do
  if let some entry := auditLine? n event then
    Action.log .debug "Audit entry" [("entry", entry)]
    modify fun s => { s with audit := s.audit ++ [entry] }
  return .ok ()

def indexListener (n : Notification) : Handler σ (Body n) Unit := fun event _ => do
  modify fun s => { s with index := indexChange n event s.index }
  return .ok ()

end Switchboard.Catalog
