import Switchboard.Catalog.Item
import Switchboard.Message
import Switchboard.Text.Described

/-!
# Messages of the catalog

Four requests and the three notifications that announce their changes.
-/

namespace Switchboard.Catalog

/-- Adds an item; answered with its id. -/
structure CreateItem where
  name : String
  price : Binary64

/-- Looks an item up; a missing one is no failure. -/
structure GetItem where
  id : ItemId

structure RenameItem where
  id : ItemId
  name : String

structure DeleteItem where
  id : ItemId

structure ItemCreated where
  id : ItemId
  name : String
deriving DecidableEq

structure ItemRenamed where
  id : ItemId
  name : String
deriving DecidableEq

structure ItemDeleted where
  id : ItemId
deriving DecidableEq

/-- The request types. -/
inductive Request where
  | create
  | get
  | rename
  | delete
deriving DecidableEq, Repr

/-- The notification types. -/
inductive Notification where
  | created
  | renamed
  | deleted
deriving DecidableEq, Repr

private def describeNamed (type : String) (id : ItemId) (name : String) : String :=
  Text.describeRecord type [("id", id.describe), ("name", Text.quote name)]

private def describeId (type : String) (id : ItemId) : String :=
  Text.describeRecord type [("id", id.describe)]

def CreateItem.describe (r : CreateItem) : String :=
  Text.describeRecord "CreateItem"
    [("name", Text.quote r.name), ("price", Decimal.formatDiagnostic r.price)]

def GetItem.describe (r : GetItem) : String := describeId "GetItem" r.id
def RenameItem.describe (r : RenameItem) : String := describeNamed "RenameItem" r.id r.name
def DeleteItem.describe (r : DeleteItem) : String := describeId "DeleteItem" r.id
def ItemCreated.describe (n : ItemCreated) : String := describeNamed "ItemCreated" n.id n.name
def ItemRenamed.describe (n : ItemRenamed) : String := describeNamed "ItemRenamed" n.id n.name
def ItemDeleted.describe (n : ItemDeleted) : String := describeId "ItemDeleted" n.id

instance : Requests Request where
  name
    | .create => "CreateItem"
    | .get => "GetItem"
    | .rename => "RenameItem"
    | .delete => "DeleteItem"
  Body
    | .create => CreateItem
    | .get => GetItem
    | .rename => RenameItem
    | .delete => DeleteItem
  describe
    | .create => CreateItem.describe
    | .get => GetItem.describe
    | .rename => RenameItem.describe
    | .delete => DeleteItem.describe
  Reply
    | .create => ItemId
    | .get => Option Item
    | .rename => Item
    | .delete => Unit

instance : Messages Notification where
  name
    | .created => "ItemCreated"
    | .renamed => "ItemRenamed"
    | .deleted => "ItemDeleted"
  Body
    | .created => ItemCreated
    | .renamed => ItemRenamed
    | .deleted => ItemDeleted
  describe
    | .created => ItemCreated.describe
    | .renamed => ItemRenamed.describe
    | .deleted => ItemDeleted.describe

end Switchboard.Catalog
