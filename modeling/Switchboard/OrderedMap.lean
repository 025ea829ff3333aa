/-!
# Ordered maps

Finite maps from naturals, kept as the list of their bindings in ascending
order of the keys, so that listing a map is reading it off.

Two views say what the operations do: `find?` (`find?_insert`, `find?_erase`)
and the order of the keys, which every operation keeps (`sorted_insert`,
`sorted_erase`). Both commute with a change of the values (`mapValues`).
-/

namespace Switchboard

/-- The bindings of a map, ascending by key. -/
abbrev OrderedMap (β : Type) := List (Nat × β)

namespace OrderedMap

variable {β : Type}

def empty : OrderedMap β := []

def find? (key : Nat) : OrderedMap β → Option β
  | [] => none
  | (k, b) :: rest => if k = key then some b else find? key rest

/-- Binds a key, in the place of its former binding if it has one. -/
def insert (key : Nat) (value : β) : OrderedMap β → OrderedMap β
  | [] => [(key, value)]
  | (k, b) :: rest =>
    if key < k then (key, value) :: (k, b) :: rest
    else if key = k then (key, value) :: rest
    else (k, b) :: insert key value rest

def erase (key : Nat) (m : OrderedMap β) : OrderedMap β :=
  m.filter fun binding => binding.1 ≠ key

def keys (m : OrderedMap β) : List Nat :=
  m.map (·.1)

def values (m : OrderedMap β) : List β :=
  m.map (·.2)

/-! ## What is found -/

theorem find?_cons (k : Nat) (b : β) (rest : OrderedMap β) (key : Nat) :
    find? key ((k, b) :: rest) = if k = key then some b else rest.find? key := rfl

theorem find?_insert (key : Nat) (value : β) (m : OrderedMap β) (k : Nat) :
    (m.insert key value).find? k = if key = k then some value else m.find? k := by
  induction m with
  | nil => rfl
  | cons binding rest ih =>
      obtain ⟨j, b⟩ := binding
      simp only [insert]
      split
      · rfl
      · split
        · rename_i heq
          subst heq
          by_cases hk : key = k <;> simp [find?_cons, hk]
        · rename_i hne
          rw [find?_cons, find?_cons, ih]
          by_cases hj : j = k
          · rw [if_pos hj, if_pos hj, if_neg fun h => hne (h.trans hj.symm)]
          · rw [if_neg hj, if_neg hj]

theorem find?_erase (key : Nat) (m : OrderedMap β) (k : Nat) :
    (m.erase key).find? k = if key = k then none else m.find? k := by
  induction m with
  | nil => simp [erase, find?]
  | cons binding rest ih =>
      obtain ⟨j, b⟩ := binding
      have herase : erase key ((j, b) :: rest) =
          if j = key then erase key rest else (j, b) :: erase key rest := by
        by_cases hj : j = key <;> simp [erase, hj]
      rw [herase, find?_cons]
      by_cases hj : j = key
      · rw [if_pos hj, ih]
        by_cases hk : key = k
        · simp [hk]
        · rw [if_neg hk, if_neg hk, if_neg fun h => hk (hj.symm.trans h)]
      · rw [if_neg hj, find?_cons, ih]
        by_cases hk : j = k
        · rw [if_pos hk, if_pos hk, if_neg fun h => hj (hk.trans h.symm)]
        · rw [if_neg hk, if_neg hk]

/-! ## The order of the keys -/

/-- The keys ascend, and so no key is bound twice. -/
def Sorted (m : OrderedMap β) : Prop :=
  m.keys.Pairwise (· < ·)

theorem sorted_empty : Sorted (empty : OrderedMap β) :=
  List.Pairwise.nil

theorem mem_keys_insert {key : Nat} {value : β} {m : OrderedMap β} {k : Nat}
    (h : k ∈ (m.insert key value).keys) : k = key ∨ k ∈ m.keys := by
  induction m with
  | nil => simpa [insert, keys] using h
  | cons binding rest ih =>
      obtain ⟨j, b⟩ := binding
      simp only [insert] at h
      split at h
      · simpa [keys] using h
      · split at h
        · simp only [keys, List.map_cons, List.mem_cons] at h ⊢
          exact h.imp id Or.inr
        · simp only [keys, List.map_cons, List.mem_cons] at h ih ⊢
          rcases h with h | h
          · exact Or.inr (Or.inl h)
          · exact (ih h).imp id Or.inr

theorem sorted_insert {key : Nat} {value : β} {m : OrderedMap β} (h : m.Sorted) :
    (m.insert key value).Sorted := by
  induction m with
  | nil => exact List.pairwise_singleton _ _
  | cons binding rest ih =>
      obtain ⟨j, b⟩ := binding
      obtain ⟨hj, hrest⟩ := List.pairwise_cons.mp h
      simp only [insert]
      split
      · rename_i hlt
        refine List.pairwise_cons.mpr ⟨fun k hk => ?_, h⟩
        rcases List.mem_cons.mp hk with rfl | hk
        · exact hlt
        · exact Nat.lt_trans hlt (hj k hk)
      · split
        · rename_i heq
          subst heq
          exact List.pairwise_cons.mpr ⟨hj, hrest⟩
        · refine List.pairwise_cons.mpr ⟨fun k hk => ?_, ih hrest⟩
          rcases mem_keys_insert hk with rfl | hk
          · show j < k
            omega
          · exact hj k hk

theorem sorted_erase {key : Nat} {m : OrderedMap β} (h : m.Sorted) : (m.erase key).Sorted :=
  List.Pairwise.sublist (List.Sublist.map _ List.filter_sublist) h

/-- Looking a key up is finding its binding in the list. -/
theorem find?_eq_some_iff {m : OrderedMap β} (h : m.Sorted) {key : Nat} {b : β} :
    m.find? key = some b ↔ (key, b) ∈ m := by
  induction m with
  | nil => simp [find?]
  | cons binding rest ih =>
      obtain ⟨k, c⟩ := binding
      obtain ⟨hk, hrest⟩ := List.pairwise_cons.mp h
      rw [find?_cons, List.mem_cons, Prod.mk.injEq]
      by_cases heq : k = key
      · subst heq
        have habsent : (k, b) ∉ rest := fun hmem =>
          Nat.lt_irrefl k (hk k (List.mem_map_of_mem (f := (·.1)) hmem))
        simp only [if_pos, Option.some.injEq, habsent, or_false, true_and]
        exact eq_comm
      · simp only [if_neg heq, ih hrest, Ne.symm heq, false_and, false_or]

/-- A key above all others goes to the end. -/
theorem insert_eq_append {m : OrderedMap β} {key : Nat} (h : ∀ k ∈ m.keys, k < key) (b : β) :
    m.insert key b = m ++ [(key, b)] := by
  induction m with
  | nil => rfl
  | cons binding rest ih =>
      obtain ⟨k, c⟩ := binding
      simp only [keys, List.map_cons, List.mem_cons, forall_eq_or_imp] at h
      have hk := h.1
      simp only [insert, if_neg (Nat.lt_asymm hk), if_neg (Nat.ne_of_gt hk)]
      rw [ih h.2, List.cons_append]

/-- A key that is bound already stays where it is. -/
theorem keys_insert_of_mem {m : OrderedMap β} (h : m.Sorted) {key : Nat} (hmem : key ∈ m.keys)
    (b : β) : (m.insert key b).keys = m.keys := by
  induction m with
  | nil => cases hmem
  | cons binding rest ih =>
      obtain ⟨k, c⟩ := binding
      obtain ⟨hk, hrest⟩ := List.pairwise_cons.mp h
      simp only [insert]
      rcases List.mem_cons.mp hmem with heq | hmem
      · obtain rfl : key = k := heq
        rw [if_neg (Nat.lt_irrefl key), if_pos rfl]
        rfl
      · have hlt : k < key := hk key hmem
        rw [if_neg (Nat.lt_asymm hlt), if_neg (Nat.ne_of_gt hlt)]
        exact congrArg (k :: ·) (ih hrest hmem)

theorem keys_erase (key : Nat) (m : OrderedMap β) :
    (m.erase key).keys = m.keys.filter (· ≠ key) := by
  simp [erase, keys, List.filter_map, Function.comp_def]

/-! ## Maps over the values -/

/-- The same keys with other values. -/
def mapValues {γ : Type} (f : β → γ) (m : OrderedMap β) : OrderedMap γ :=
  m.map fun binding => (binding.1, f binding.2)

theorem find?_mapValues {γ : Type} (f : β → γ) (m : OrderedMap β) (key : Nat) :
    (m.mapValues f).find? key = (m.find? key).map f := by
  induction m with
  | nil => rfl
  | cons binding rest ih =>
      obtain ⟨k, c⟩ := binding
      show (if k = key then some (f c) else find? key (mapValues f rest)) = _
      rw [ih, find?_cons]
      by_cases hk : k = key
      · rw [if_pos hk, if_pos hk, Option.map_some]
      · rw [if_neg hk, if_neg hk]

theorem keys_mapValues {γ : Type} (f : β → γ) (m : OrderedMap β) :
    (m.mapValues f).keys = m.keys := by
  simp [keys, mapValues, Function.comp_def]

theorem mapValues_insert {γ : Type} (f : β → γ) (key : Nat) (b : β) (m : OrderedMap β) :
    (m.insert key b).mapValues f = (m.mapValues f).insert key (f b) := by
  induction m with
  | nil => rfl
  | cons binding rest ih =>
      obtain ⟨k, c⟩ := binding
      simp only [insert]
      split
      · simp [mapValues, insert, *]
      · split
        · simp [mapValues, insert, *]
        · simp only [mapValues, List.map_cons, insert] at ih ⊢
          rw [if_neg ‹_›, if_neg ‹_›, ih]

theorem mapValues_erase {γ : Type} (f : β → γ) (key : Nat) (m : OrderedMap β) :
    (m.erase key).mapValues f = (m.mapValues f).erase key := by
  simp [erase, mapValues, List.filter_map, Function.comp_def]

end OrderedMap

end Switchboard
