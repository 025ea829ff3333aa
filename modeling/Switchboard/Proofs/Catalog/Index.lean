import Switchboard.Catalog.Index
import Switchboard.Proofs.Catalog.Store

/-!
# What a search finds

A search lists the ids whose folded name contains the folded term
(`Index.mem_search`), ascending (`Index.search_ascending`).

An index `Follows` a store if it holds the folded name of every item under the
id of that item, and nothing else. Each operation of the store is followed by
one change of the index (`follows_insert`, `follows_rename`,
`follows_remove`).
-/

namespace Switchboard.Catalog

theorem occursIn_iff {needle hay : List Char} : occursIn needle hay = true ↔ needle <:+: hay := by
  induction hay with
  | nil => rw [occursIn, List.isEmpty_iff, List.infix_nil]
  | cons c cs ih =>
      rw [occursIn, Bool.or_eq_true, ih, List.isPrefixOf_iff_prefix, List.infix_cons_iff]

namespace Index

variable {index : Index} {term : String} {id : ItemId}

theorem mem_search (h : OrderedMap.Sorted index) :
    id ∈ index.search term ↔
      ∃ name, OrderedMap.find? id.value index = some name ∧
        (foldName term).toList <:+: name.toList := by
  simp only [search, List.mem_map, List.mem_filter, Prod.exists, occursIn_iff]
  constructor
  · rintro ⟨key, name, ⟨hmem, hin⟩, rfl⟩
    exact ⟨name, (OrderedMap.find?_eq_some_iff h).mpr hmem, hin⟩
  · rintro ⟨name, hfind, hin⟩
    exact ⟨id.value, name, ⟨(OrderedMap.find?_eq_some_iff h).mp hfind, hin⟩, rfl⟩

theorem search_ascending (h : OrderedMap.Sorted index) :
    (index.search term).Pairwise fun a b => a.value < b.value := by
  rw [search, List.pairwise_map]
  have hsorted : List.Pairwise (fun a b : Nat × String => a.1 < b.1) index := List.pairwise_map.mp h
  exact hsorted.sublist List.filter_sublist

/-! ## Following the store -/

/-- The index holds the folded names of the items, under the keys of the
items. -/
def Follows (index : Index) (s : Store) : Prop :=
  index = OrderedMap.mapValues (fun item => foldName item.name) s.items

variable {s s' : Store} {name : String} {price : Binary64} {item : Item}

theorem follows_insert (h : index.Follows s) (hinsert : s.insert name price = .ok (item, s')) :
    (index.put item.id name).Follows s' := by
  obtain ⟨-, rfl, rfl⟩ := Store.insert_eq_ok hinsert
  rw [Follows, OrderedMap.mapValues_insert, ← h]
  rfl

theorem follows_rename (h : index.Follows s) (hs : s.Sound)
    (hrename : s.rename id name = .ok (item, s')) : (index.put item.id item.name).Follows s' := by
  obtain ⟨old, hold, -, rfl, rfl⟩ := Store.rename_eq_ok hrename
  obtain rfl := hs.id_eq hold
  rw [Follows, OrderedMap.mapValues_insert, ← h]
  rfl

theorem follows_remove (h : index.Follows s) (hremove : s.remove id = .ok (item, s')) :
    (index.remove id).Follows s' := by
  obtain ⟨-, rfl⟩ := Store.remove_eq_ok hremove
  rw [Follows, OrderedMap.mapValues_erase, ← h]
  rfl

namespace Follows

theorem sorted (h : index.Follows s) (hs : s.Sound) : OrderedMap.Sorted index := by
  rw [OrderedMap.Sorted, show index = _ from h, OrderedMap.keys_mapValues]
  exact hs.sorted

theorem find? (h : index.Follows s) (id : ItemId) :
    OrderedMap.find? id.value index = (s.get? id).map fun item => foldName item.name := by
  rw [show index = _ from h, OrderedMap.find?_mapValues]
  rfl

theorem eq_toList (h : index.Follows s) (hs : s.Sound) :
    index = s.toList.map fun item => (item.id.value, foldName item.name) := by
  rw [show index = _ from h, OrderedMap.mapValues, Store.toList, OrderedMap.values, List.map_map]
  refine List.map_congr_left fun binding hmem => ?_
  obtain ⟨key, item⟩ := binding
  have hown := hs.own_id ((OrderedMap.find?_eq_some_iff hs.sorted).mpr hmem)
  exact congrArg (·, foldName item.name) hown.symm

/-- A search finds the live items whose folded name contains the folded term. -/
theorem mem_search (h : index.Follows s) (hs : s.Sound) :
    id ∈ index.search term ↔
      ∃ item, s.get? id = some item ∧ (foldName term).toList <:+: (foldName item.name).toList := by
  rw [Index.mem_search (h.sorted hs), h.find?]
  constructor
  · rintro ⟨name, hname, hin⟩
    obtain ⟨item, hget, rfl⟩ := Option.map_eq_some_iff.mp hname
    exact ⟨item, hget, hin⟩
  · rintro ⟨item, hget, hin⟩
    exact ⟨foldName item.name, by rw [hget]; rfl, hin⟩

end Follows

end Index

end Switchboard.Catalog
