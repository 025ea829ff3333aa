import Switchboard.Catalog.Client

/-!
# Calls of the client

The six operations of the client as data, each with its arguments, and what
they answer on success.
-/

namespace Switchboard.Catalog

inductive Call where
  | create (name : String) (price : Binary64)
  | get (id : ItemId)
  | require (id : ItemId)
  | rename (id : ItemId) (name : String)
  | delete (id : ItemId)
  | describe (id : ItemId)
deriving DecidableEq, Repr

/-- What calls answer on success. -/
inductive Call.Reply where
  | id (id : ItemId)
  | lookup (item : Option Item)
  | item (item : Item)
  | unit
  | text (text : String)
deriving DecidableEq, Repr

/-- Makes a call through a client. -/
def Call.run {σ ρ ν : Type} [Requests ρ] [Messages ν] (c : Client σ ρ ν) :
    Call → Action σ (Except Error Call.Reply)
  | .create name price => do return (← c.create name price).map .id
  | .get id => do return (← c.get id).map .lookup
  | .require id => do return (← c.require id).map .item
  | .rename id name => do return (← c.rename id name).map .item
  | .delete id => do return (← c.delete id).map fun () => .unit
  | .describe id => do return (← c.describe id).map .text

end Switchboard.Catalog
