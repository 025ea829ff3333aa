import Switchboard.Catalog.Item
import Switchboard.OrderedMap

/-!
# The search index

Folded names by id. A search folds its term and finds the names that contain
it.
-/

namespace Switchboard.Catalog

/-- Whether a text occurs in another one. -/
def occursIn (needle : List Char) : List Char → Bool
  | [] => needle.isEmpty
  | c :: cs => needle.isPrefixOf (c :: cs) || occursIn needle cs

abbrev Index := OrderedMap String

namespace Index

/-- Indexes an item under a name, in the place of its former one. -/
def put (index : Index) (id : ItemId) (name : String) : Index :=
  index.insert id.value (foldName name)

def remove (index : Index) (id : ItemId) : Index :=
  index.erase id.value

/-- The ids of the items whose name contains the term, ascending. -/
def search (index : Index) (term : String) : List ItemId :=
  let term := (foldName term).toList
  (index.filter fun binding => occursIn term binding.2.toList).map fun binding => ⟨binding.1⟩

end Index

end Switchboard.Catalog
