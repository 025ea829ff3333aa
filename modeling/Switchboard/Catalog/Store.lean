import Switchboard.Catalog.Item
import Switchboard.Failure
import Switchboard.OrderedMap

/-!
# The item store

Items by id, and the last id given out. Ids are consecutive from 1 and never
given out twice; names are unique in their folded form. Each operation
answers its result with the new store, or the cause of its failure, and then
nothing has changed.
-/

namespace Switchboard.Catalog

structure Store where
  items : OrderedMap Item := .empty
  lastId : Nat := 0

namespace Store

/-- Whether an item other than the given one has this name. -/
def nameTaken (s : Store) (name : String) (other : Option ItemId) : Bool :=
  let folded := foldName name
  s.items.values.any fun item => some item.id ≠ other && foldName item.name = folded

def duplicate (name : String) : Failure.Cause :=
  .conflict ("an item named '" ++ name ++ "' already exists")

def missing (id : ItemId) : Failure.Cause :=
  .notFound id.format

/-- Stores a new item under the next id. -/
def insert (s : Store) (name : String) (price : Binary64) : Except Failure.Cause (Item × Store) :=
  if s.nameTaken name none then .error (duplicate name)
  else
    let item : Item := ⟨⟨s.lastId + 1⟩, name, price⟩
    .ok (item, { items := s.items.insert item.id.value item, lastId := s.lastId + 1 })

def get? (s : Store) (id : ItemId) : Option Item :=
  s.items.find? id.value

/-- Gives an item another name; its own old name is free to it. -/
def rename (s : Store) (id : ItemId) (name : String) : Except Failure.Cause (Item × Store) :=
  match s.get? id with
  | none => .error (missing id)
  | some item =>
    if s.nameTaken name (some id) then .error (duplicate name)
    else
      let item := { item with name }
      .ok (item, { s with items := s.items.insert id.value item })

def remove (s : Store) (id : ItemId) : Except Failure.Cause (Item × Store) :=
  match s.get? id with
  | none => .error (missing id)
  | some item => .ok (item, { s with items := s.items.erase id.value })

def size (s : Store) : Nat :=
  s.items.length

/-- All items, ascending by id. -/
def toList (s : Store) : List Item :=
  s.items.values

end Store

end Switchboard.Catalog
