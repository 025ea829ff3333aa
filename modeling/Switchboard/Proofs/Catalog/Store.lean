import Switchboard.Catalog.Store

/-!
# The invariant of the store

`Store.Sound` is what every operation of the store keeps: items lie under
their own ids, ids lie between 1 and the last one given out, and no two items
have the same name in its folded form. For each operation there are lemmas
that say which result it has in which case (`rename_of_taken`), what its
success says of the case and of the new store (`rename_eq_ok`), that the
invariant is kept (`Sound.rename`), and what is found and listed afterwards
(`get?_rename`, `ids_rename`).
-/

namespace Switchboard.Catalog

namespace Store

variable {s s' : Store} {name : String} {price : Binary64} {id : ItemId} {item : Item}

structure Sound (s : Store) : Prop where
  sorted : s.items.Sorted
  own_id : ∀ {key item}, s.items.find? key = some item → item.id.value = key
  in_range : ∀ {key item}, s.items.find? key = some item → 1 ≤ key ∧ key ≤ s.lastId
  names_apart : ∀ {j k a b}, s.items.find? j = some a → s.items.find? k = some b →
    foldName a.name = foldName b.name → j = k

theorem sound_empty : Sound {} where
  sorted := OrderedMap.sorted_empty
  own_id h := by cases h
  in_range h := by cases h
  names_apart h := by cases h

/-! ## Live items -/

namespace Sound

/-- The listed items are those that are found by an id. -/
theorem mem_toList (hs : s.Sound) : item ∈ s.toList ↔ s.get? item.id = some item := by
  simp only [toList, OrderedMap.values, get?, List.mem_map, Prod.exists]
  constructor
  · rintro ⟨key, b, hmem, rfl⟩
    have hfind := (OrderedMap.find?_eq_some_iff hs.sorted).mpr hmem
    rw [hs.own_id hfind]
    exact hfind
  · intro hfind
    exact ⟨item.id.value, item, (OrderedMap.find?_eq_some_iff hs.sorted).mp hfind, rfl⟩

theorem id_eq (hs : s.Sound) (h : s.get? id = some item) : item.id = id :=
  congrArg ItemId.mk (hs.own_id h)

/-- Whether a name is taken is whether a live item other than the given one has
it in its folded form. -/
theorem nameTaken_iff (hs : s.Sound) {other : Option ItemId} :
    s.nameTaken name other = true ↔
      ∃ id item, s.get? id = some item ∧ some id ≠ other ∧ foldName item.name = foldName name := by
  simp only [nameTaken, List.any_eq_true, Bool.and_eq_true, decide_eq_true_eq]
  constructor
  · rintro ⟨item, hmem, hother, hname⟩
    exact ⟨item.id, item, hs.mem_toList.mp hmem, hother, hname⟩
  · rintro ⟨id, item, hget, hother, hname⟩
    obtain rfl := hs.id_eq hget
    exact ⟨item, hs.mem_toList.mpr hget, hother, hname⟩

theorem nameTaken_none_iff (hs : s.Sound) :
    s.nameTaken name none = true ↔
      ∃ other item, s.get? other = some item ∧ foldName item.name = foldName name := by
  rw [hs.nameTaken_iff]
  simp only [ne_eq, reduceCtorEq, not_false_eq_true, true_and]

theorem nameTaken_some_iff (hs : s.Sound) :
    s.nameTaken name (some id) = true ↔
      ∃ other item, other ≠ id ∧ s.get? other = some item ∧
        foldName item.name = foldName name := by
  rw [hs.nameTaken_iff]
  simp only [ne_eq, Option.some.injEq, and_left_comm]

end Sound

/-! ## What the operations do -/

theorem insert_eq_ok (h : s.insert name price = .ok (item, s')) :
    s.nameTaken name none = false ∧ item = ⟨⟨s.lastId + 1⟩, name, price⟩ ∧
      s' = { items := s.items.insert (s.lastId + 1) item, lastId := s.lastId + 1 } := by
  unfold insert at h
  split at h
  · cases h
  · cases h
    exact ⟨Bool.eq_false_iff.mpr ‹_›, rfl, rfl⟩

theorem rename_eq_ok (h : s.rename id name = .ok (item, s')) :
    ∃ old, s.get? id = some old ∧ s.nameTaken name (some id) = false ∧
      item = { old with name } ∧ s' = { s with items := s.items.insert id.value item } := by
  unfold rename at h
  split at h
  · cases h
  · split at h
    · cases h
    · cases h
      exact ⟨_, ‹_›, Bool.eq_false_iff.mpr ‹_›, rfl, rfl⟩

theorem remove_eq_ok (h : s.remove id = .ok (item, s')) :
    s.get? id = some item ∧ s' = { s with items := s.items.erase id.value } := by
  unfold remove at h
  split at h
  · cases h
  · cases h
    exact ⟨‹_›, rfl⟩

theorem insert_of_taken (h : s.nameTaken name none = true) :
    s.insert name price = .error (duplicate name) :=
  if_pos h

theorem insert_of_free (h : s.nameTaken name none = false) :
    s.insert name price = .ok (⟨⟨s.lastId + 1⟩, name, price⟩,
      { items := s.items.insert (s.lastId + 1) ⟨⟨s.lastId + 1⟩, name, price⟩,
        lastId := s.lastId + 1 }) := by
  simp [insert, h]

theorem rename_of_missing (h : s.get? id = none) : s.rename id name = .error (missing id) := by
  simp [rename, h]

theorem rename_of_taken (h : s.get? id = some item) (htaken : s.nameTaken name (some id) = true) :
    s.rename id name = .error (duplicate name) := by
  simp [rename, h, htaken]

theorem rename_of_free (h : s.get? id = some item) (hfree : s.nameTaken name (some id) = false) :
    s.rename id name = .ok ({ item with name },
      { s with items := s.items.insert id.value { item with name } }) := by
  simp [rename, h, hfree]

theorem remove_of_missing (h : s.get? id = none) : s.remove id = .error (missing id) := by
  simp [remove, h]

theorem remove_of_found (h : s.get? id = some item) :
    s.remove id = .ok (item, { s with items := s.items.erase id.value }) := by
  simp [remove, h]

/-! ## The invariant is kept -/

/-- Writing an item under its own id keeps the invariant, if the id is one that
was given out and no other item has the name. -/
theorem Sound.write (hs : s.Sound) {lastId : Nat} (hlast : s.lastId ≤ lastId) (item : Item)
    (hid : 1 ≤ item.id.value ∧ item.id.value ≤ lastId)
    (hfree : s.nameTaken item.name (some item.id) = false) :
    Sound { items := s.items.insert item.id.value item, lastId } where
  sorted := OrderedMap.sorted_insert hs.sorted
  own_id h := by
    rw [OrderedMap.find?_insert] at h
    split at h
    · cases h
      assumption
    · exact hs.own_id h
  in_range h := by
    rw [OrderedMap.find?_insert] at h
    split at h
    · rename_i heq
      exact heq ▸ hid
    · have := hs.in_range h
      exact ⟨this.1, Nat.le_trans this.2 hlast⟩
  names_apart {j k a b} ha hb hname := by
    -- no item but the one that is overwritten has the name already
    have hclash {k b} (hb : s.items.find? k = some b) (hk : item.id.value ≠ k) :
        foldName b.name ≠ foldName item.name := by
      intro hsame
      refine Bool.eq_false_iff.mp hfree (hs.nameTaken_iff.mpr ⟨⟨k⟩, b, hb, ?_, hsame⟩)
      exact fun h => hk (congrArg ItemId.value (Option.some.inj h)).symm
    rw [OrderedMap.find?_insert] at ha hb
    split at ha <;> split at hb
    · exact (‹item.id.value = j›).symm.trans ‹_›
    · cases ha
      exact absurd hname.symm (hclash hb ‹_›)
    · cases hb
      exact absurd hname (hclash ha ‹_›)
    · exact hs.names_apart ha hb hname

theorem Sound.insert (hs : s.Sound) (h : s.insert name price = .ok (item, s')) : s'.Sound := by
  obtain ⟨hfree, rfl, rfl⟩ := insert_eq_ok h
  refine hs.write (Nat.le_succ _) ⟨⟨s.lastId + 1⟩, name, price⟩
    ⟨Nat.succ_pos _, Nat.le_refl _⟩ ?_
  refine Bool.eq_false_iff.mpr fun htaken => Bool.eq_false_iff.mp hfree ?_
  obtain ⟨id, other, hget, -, hname⟩ := hs.nameTaken_iff.mp htaken
  exact hs.nameTaken_iff.mpr ⟨id, other, hget, nofun, hname⟩

theorem Sound.rename (hs : s.Sound) (h : s.rename id name = .ok (item, s')) : s'.Sound := by
  obtain ⟨old, hold, hfree, rfl, rfl⟩ := rename_eq_ok h
  obtain rfl := hs.id_eq hold
  exact hs.write (Nat.le_refl _) { old with name } (hs.in_range hold) hfree

theorem Sound.remove (hs : s.Sound) (h : s.remove id = .ok (item, s')) : s'.Sound := by
  obtain ⟨-, rfl⟩ := remove_eq_ok h
  have hkept {k b} (hfind : (s.items.erase id.value).find? k = some b) :
      s.items.find? k = some b := by
    rw [OrderedMap.find?_erase] at hfind
    split at hfind
    · cases hfind
    · exact hfind
  exact {
    sorted := OrderedMap.sorted_erase hs.sorted
    own_id := fun h => hs.own_id (hkept h)
    in_range := fun h => hs.in_range (hkept h)
    names_apart := fun ha hb => hs.names_apart (hkept ha) (hkept hb) }

/-! ## What is found afterwards -/

theorem get?_insert (h : s.insert name price = .ok (item, s')) (other : ItemId) :
    s'.get? other = if item.id = other then some item else s.get? other := by
  obtain ⟨-, rfl, rfl⟩ := insert_eq_ok h
  simp only [get?, OrderedMap.find?_insert, ItemId.ext_iff]

theorem get?_rename (h : s.rename id name = .ok (item, s')) (other : ItemId) :
    s'.get? other = if id = other then some item else s.get? other := by
  obtain ⟨old, -, -, -, rfl⟩ := rename_eq_ok h
  simp only [get?, OrderedMap.find?_insert, ItemId.ext_iff]

theorem get?_remove (h : s.remove id = .ok (item, s')) (other : ItemId) :
    s'.get? other = if id = other then none else s.get? other := by
  obtain ⟨-, rfl⟩ := remove_eq_ok h
  simp only [get?, OrderedMap.find?_erase, ItemId.ext_iff]

/-! ## The ids that are live -/

def ids (s : Store) : List ItemId :=
  s.toList.map (·.id)

/-- The ids are the keys: items lie under their own. -/
theorem Sound.ids_eq_keys (hs : s.Sound) : s.ids = s.items.keys.map ItemId.mk := by
  simp only [ids, toList, OrderedMap.values, OrderedMap.keys, List.map_map]
  refine List.map_congr_left fun binding hmem => ?_
  obtain ⟨key, item⟩ := binding
  exact congrArg ItemId.mk (hs.own_id ((OrderedMap.find?_eq_some_iff hs.sorted).mpr hmem))

theorem ids_insert (hs : s.Sound) (h : s.insert name price = .ok (item, s')) :
    s'.ids = s.ids ++ [item.id] := by
  have hs' := hs.insert h
  obtain ⟨-, rfl, rfl⟩ := insert_eq_ok h
  -- the new key goes to the end, since no key is above the last id
  have habove : ∀ key ∈ s.items.keys, key < s.lastId + 1 := by
    intro key hkey
    obtain ⟨⟨key, old⟩, hmem, rfl⟩ := List.mem_map.mp hkey
    have := (hs.in_range ((OrderedMap.find?_eq_some_iff hs.sorted).mpr hmem)).2
    show key < s.lastId + 1
    omega
  rw [hs'.ids_eq_keys, hs.ids_eq_keys, OrderedMap.insert_eq_append habove]
  simp [OrderedMap.keys]

theorem ids_rename (hs : s.Sound) (h : s.rename id name = .ok (item, s')) : s'.ids = s.ids := by
  have hs' := hs.rename h
  obtain ⟨old, hold, -, -, rfl⟩ := rename_eq_ok h
  have hmem : id.value ∈ s.items.keys :=
    List.mem_map_of_mem (f := (·.1)) ((OrderedMap.find?_eq_some_iff hs.sorted).mp hold)
  rw [hs'.ids_eq_keys, hs.ids_eq_keys, OrderedMap.keys_insert_of_mem hs.sorted hmem]

theorem ids_remove (hs : s.Sound) (h : s.remove id = .ok (item, s')) :
    s'.ids = s.ids.filter (· ≠ id) := by
  have hs' := hs.remove h
  obtain ⟨-, rfl⟩ := remove_eq_ok h
  rw [hs'.ids_eq_keys, hs.ids_eq_keys, OrderedMap.keys_erase, List.filter_map]
  refine congrArg _ (List.filter_congr fun key _ => ?_)
  simp [ItemId.ext_iff]

theorem Sound.ascending (hs : s.Sound) : s.toList.Pairwise fun a b => a.id.value < b.id.value := by
  have hids : s.ids.Pairwise fun a b => a.value < b.value := by
    rw [hs.ids_eq_keys, List.pairwise_map]
    exact hs.sorted
  rwa [ids, List.pairwise_map] at hids

theorem Sound.mem_ids (hs : s.Sound) : id ∈ s.ids ↔ (s.get? id).isSome := by
  simp only [ids, List.mem_map, Option.isSome_iff_exists]
  constructor
  · rintro ⟨item, hmem, rfl⟩
    exact ⟨item, hs.mem_toList.mp hmem⟩
  · rintro ⟨item, hget⟩
    obtain rfl := hs.id_eq hget
    exact ⟨item, hs.mem_toList.mpr hget, rfl⟩

end Store

end Switchboard.Catalog
