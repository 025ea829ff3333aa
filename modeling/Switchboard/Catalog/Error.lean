import Switchboard.DispatchError

/-!
# Errors of catalog operations

What a caller of the catalog sees when an operation fails: failures sorted by
their kind, and the dispatch errors of the mediator.
-/

namespace Switchboard.Catalog

inductive Error where
  | notFound (message : String)
  /-- Rejected by validation. -/
  | invalid (failure : Failure)
  /-- Another item has the name. -/
  | duplicate (message : String)
  | cancelled
  /-- Any other failure of a handler. -/
  | failed (failure : Failure)
  /-- The call could not be carried out as wired. -/
  | dispatch (error : DispatchError)
deriving DecidableEq, Repr

namespace Error

def ofFailure (f : Failure) : Error :=
  match f.kind with
  | .notFound => notFound f.message
  | .validation => invalid f
  | .conflict => duplicate f.message
  | .cancelled => cancelled
  | _ => failed f

def message : Error → String
  | notFound text => "Item not found: " ++ text
  | invalid f => "Invalid item: " ++ f.format
  | duplicate text => "Duplicate item: " ++ text
  | cancelled => "Operation cancelled"
  | failed f => "Catalog operation failed: " ++ f.format
  | dispatch e => "Mediator error: " ++ e.message

/-- The names of the fields that validation rejected. -/
def invalidFields : Error → List String
  | invalid f => f.fields.map (·.field)
  | _ => []

/-- The error that this one passes on as its source. -/
def source? : Error → Option DispatchError
  | dispatch e => some e
  | _ => none

end Error

end Switchboard.Catalog
