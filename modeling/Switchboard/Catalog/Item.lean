import Switchboard.Decimal.Shortest
import Switchboard.Json.Number
import Switchboard.Json.Record
import Switchboard.Text.Lowercase

/-!
# Items

An item of the catalog: its id, given by the store, its name and its price.
Names are compared, for uniqueness and for search, in their folded form.
-/

namespace Switchboard.Catalog

@[ext]
structure ItemId where
  value : Nat
deriving DecidableEq, Repr

namespace ItemId

/-- The id as people read it. -/
def format (id : ItemId) : String :=
  "item_" ++ Decimal.format id.value

/-- The id in diagnostics. -/
def describe (id : ItemId) : String :=
  "ItemId(" ++ Decimal.format id.value ++ ")"

def toJson (id : ItemId) : Json :=
  .ofNat id.value

def ofJson? (json : Json) : Option ItemId :=
  json.natural?.map ItemId.mk

/-- Ids in ascending order. -/
def sort (ids : List ItemId) : List ItemId :=
  ids.mergeSort fun a b => a.value ≤ b.value

end ItemId

structure Item where
  id : ItemId
  name : String
  price : Binary64
deriving DecidableEq, Repr

namespace Item

/-- Equality of contents; a price that is no number equals nothing. -/
def same (a b : Item) : Bool :=
  a.id = b.id && a.name = b.name && a.price.same b.price

def toJson (item : Item) : Json :=
  .ofMembers
    [("id", item.id.toJson), ("name", .ofText item.name), ("price", .ofBinary64 item.price)]

/-- All three fields are required. -/
def ofJson? (json : Json) : Option Item := do
  let [id, name, price] ← Json.fields? ["id", "name", "price"] json | none
  return {
    id := ← Json.required ItemId.ofJson? id
    name := ← Json.required Json.text? name
    price := ← Json.required Json.binary64? price }

end Item

/-- The form in which names are compared. -/
def foldName (name : String) : String :=
  Text.lowercase name

end Switchboard.Catalog
