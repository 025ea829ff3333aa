import Switchboard.Proofs.Catalog.Store
import Switchboard.Proofs.Catalog.Wiring
import Switchboard.Proofs.Transcript

/-!
# Histories of the store

The three operations that change the store as data, and transcripts of any
number of them from the empty store on. `Change.Lawful` is what one operation
may answer and leave behind; `store_history_lawful` proves it of every
operation in every history, together with the invariant of the store and the
order in which ids are given out.
-/

namespace Switchboard.Catalog

inductive Change where
  | insert (name : String) (price : Binary64)
  | rename (id : ItemId) (name : String)
  | remove (id : ItemId)

namespace Change

def run : Change → Action State (Outcome Item)
  | insert name price => insertItem name price
  | rename id name => renameItem id name
  | remove id => removeItem id

def effect (s : Store) : Change → Except Failure.Cause (Item × Store)
  | insert name price => s.insert name price
  | rename id name => s.rename id name
  | remove id => s.remove id

theorem eval_run (c : Change) (w : World State) :
    c.run.eval w = settle w (c.effect w.state.store) := by
  cases c with
  | insert name price => exact eval_insertItem name price w
  | rename id name => exact eval_commit (·.rename id name) w
  | remove id => exact eval_commit (·.remove id) w

/-- How a change answers and what it leaves of a store `s` in the store `s'`.
A change that fails leaves the items and the last id as they were. -/
def Lawful (s s' : Store) : Change → Outcome Item → Prop
  | insert name price, .ok item =>
    item = ⟨⟨s.lastId + 1⟩, name, price⟩ ∧ s'.lastId = s.lastId + 1 ∧
      s'.get? item.id = some item ∧ ∀ other ≠ item.id, s'.get? other = s.get? other
  | rename id name, .ok item =>
    ∃ old, s.get? id = some old ∧ item = ⟨id, name, old.price⟩ ∧ s'.lastId = s.lastId ∧
      s'.get? id = some item ∧ ∀ other ≠ id, s'.get? other = s.get? other
  | remove id, .ok item =>
    s.get? id = some item ∧ s'.lastId = s.lastId ∧
      s'.get? id = none ∧ ∀ other ≠ id, s'.get? other = s.get? other
  | _, .error _ => s' = s

variable {s s' : Store} {c : Change} {item : Item}

theorem sound_effect (hs : s.Sound) (h : c.effect s = .ok (item, s')) : s'.Sound := by
  cases c with
  | insert name price => exact hs.insert h
  | rename id name => exact hs.rename h
  | remove id => exact hs.remove h

theorem lawful_effect (hs : s.Sound) (h : c.effect s = .ok (item, s')) :
    c.Lawful s s' (.ok item) := by
  cases c with
  | insert name price =>
      have hget := Store.get?_insert h
      obtain ⟨-, hitem, hs'⟩ := Store.insert_eq_ok h
      refine ⟨hitem, by rw [hs'], ?_, fun other hother => ?_⟩
      · rw [hget, if_pos rfl]
      · rw [hget, if_neg hother.symm]
  | rename id name =>
      have hget := Store.get?_rename h
      obtain ⟨old, hold, -, hitem, hs'⟩ := Store.rename_eq_ok h
      refine ⟨old, hold, ?_, by rw [hs'], ?_, fun other hother => ?_⟩
      · rw [hitem, ← hs.id_eq hold]
      · rw [hget, if_pos rfl]
      · rw [hget, if_neg hother.symm]
  | remove id =>
      have hget := Store.get?_remove h
      obtain ⟨hold, hs'⟩ := Store.remove_eq_ok h
      refine ⟨hold, by rw [hs'], ?_, fun other hother => ?_⟩
      · rw [hget, if_pos rfl]
      · rw [hget, if_neg hother.symm]

theorem lawful_error (s : Store) (c : Change) (f : Failure) : c.Lawful s s (.error f) := by
  cases c <;> rfl

end Change

/-! ## Histories -/

def storeHistory (changes : List Change) : Transcript State Change (Outcome Item) :=
  .of (fun c w => c.run.eval w) { state := {} } changes

/-- The id that a change gave out, if it is an insertion that succeeded. -/
def issued? : Change × Exit (Outcome Item) → Option Nat
  | (.insert _ _, .value (.ok item)) => some item.id.value
  | _ => none

/-- What a history keeps: the invariant of the store, and that the ids given
out so far are those from 1 to the last one. -/
def Tallied (t : Transcript State Change (Outcome Item)) : Prop :=
  t.world.state.store.Sound ∧
    t.entries.filterMap issued? = List.range' 1 t.world.state.store.lastId

theorem tallied_extend (t : Transcript State Change (Outcome Item)) (c : Change)
    (ht : Tallied t) : Tallied (t.extend (fun c w => c.run.eval w) c) := by
  obtain ⟨hs, hissued⟩ := ht
  rw [Transcript.extend_of_eq (c.eval_run t.world), Tallied, List.filterMap_append, hissued]
  cases h : c.effect t.world.state.store with
  | error cause =>
      refine ⟨hs, ?_⟩
      cases c <;> exact List.append_nil _
  | ok result =>
      obtain ⟨item, store⟩ := result
      refine ⟨Change.sound_effect hs h, ?_⟩
      show _ = List.range' 1 store.lastId
      cases c with
      | insert name price =>
          obtain ⟨-, rfl, rfl⟩ := Store.insert_eq_ok h
          rw [List.range'_concat, Nat.one_mul, Nat.add_comm 1]
          rfl
      | rename id name =>
          obtain ⟨-, -, -, -, rfl⟩ := Store.rename_eq_ok h
          exact List.append_nil _
      | remove id =>
          obtain ⟨-, rfl⟩ := Store.remove_eq_ok h
          exact List.append_nil _

/-- Whatever was inserted, renamed and removed before: the store keeps its
invariant and lists its items by ascending id, the insertions that succeeded
were given the ids 1, 2, 3 and so on, and any further change is lawful. No
change panics. -/
theorem store_history_lawful (changes : List Change) :
    let t := storeHistory changes
    let s := t.world.state.store
    s.Sound ∧ (s.toList.Pairwise fun a b => a.id.value < b.id.value) ∧
      t.entries.filterMap issued? = List.range' 1 s.lastId ∧
      ∀ c : Change, ∃ outcome w, c.run.eval t.world = (.value outcome, w) ∧
        c.Lawful s w.state.store outcome := by
  intro t s
  obtain ⟨hs, hissued⟩ : Tallied t :=
    Transcript.invariant _ ⟨Store.sound_empty, rfl⟩ tallied_extend changes
  refine ⟨hs, hs.ascending, hissued, fun c => ?_⟩
  rw [c.eval_run]
  cases h : c.effect s with
  | error cause => exact ⟨_, _, rfl, c.lawful_error s _⟩
  | ok result => exact ⟨_, _, rfl, Change.lawful_effect hs h⟩

end Switchboard.Catalog
