import Switchboard.Proofs.Catalog.Session

/-!
# Reads answer the last write

What is found under an id is decided by the writes that name it: it is there
from its creation to its deletion, under the price of the creation and the
name of the last renaming. `Write.next` is one write, `itemAfter` any number
of them. Since no id is given out twice, the writes after the creation hold no
second one, and `itemAfter` is read off them (`itemAfter_deleted`,
`itemAfter_live`).
-/

namespace Switchboard.Catalog

variable {id : ItemId} {ws : List Write}

/-- What is found under an id after one more write. -/
def Write.next (id : ItemId) (found : Option Item) : Write → Option Item
  | created other name price =>
    if other = id then some ⟨id, Text.trim name, price⟩ else found
  | renamed other name =>
    if other = id then found.map fun item => { item with name := Text.trim name } else found
  | deleted other => if other = id then none else found

def itemAfter (id : ItemId) (found : Option Item) (ws : List Write) : Option Item :=
  ws.foldl (Write.next id) found

theorem itemAfter_append_singleton (found : Option Item) (ws : List Write) (write : Write) :
    itemAfter id found (ws ++ [write]) = (write.next id) (itemAfter id found ws) := by
  rw [itemAfter, List.foldl_append]
  rfl

/-! ## What the store finds -/

theorem session_recalled (config : Config) (turns : List Turn) (id : ItemId) :
    (session config turns).world.state.store.get? id =
      itemAfter id none (writes (session config turns).entries) := by
  refine session_induction config (P := fun s ws => s.store.get? id = itemAfter id none ws)
    rfl ?_ ?_ ?_ turns
  · intro s ws name price item store _ hfound h
    show store.get? id = _
    rw [Store.get?_insert h, hfound, itemAfter_append_singleton]
    obtain ⟨-, rfl, -⟩ := Store.insert_eq_ok h
    by_cases hid : (⟨s.store.lastId + 1⟩ : ItemId) = id
    · simp [Write.next, hid]
    · simp [Write.next, hid]
  · intro s ws other name item store _ hfound h
    show store.get? id = _
    rw [Store.get?_rename h, hfound, itemAfter_append_singleton]
    obtain ⟨old, hold, -, rfl, -⟩ := Store.rename_eq_ok h
    by_cases hid : other = id
    · subst hid
      rw [hfound] at hold
      simp [Write.next, hold]
    · simp [Write.next, hid]
  · intro s ws other item store _ hfound h
    show store.get? id = _
    rw [Store.get?_remove h, hfound, itemAfter_append_singleton]
    rfl

/-! ## Reading the writes -/

def Write.newName? (id : ItemId) : Write → Option String
  | renamed other name => if other = id then some name else none
  | created _ _ _ => none
  | deleted _ => none

/-- The name that the last renaming gave, or else the given one. -/
def lastName (id : ItemId) (name : String) (ws : List Write) : String :=
  ((ws.filterMap (Write.newName? id)).getLast?).getD name

theorem lastName_renamed (id : ItemId) (old name : String) (ws : List Write) :
    lastName id old (.renamed id name :: ws) = lastName id name ws := by
  simp [lastName, Write.newName?, List.getLast?_cons]

theorem lastName_other {write : Write} (h : write.newName? id = none) (name : String)
    (ws : List Write) : lastName id name (write :: ws) = lastName id name ws := by
  rw [lastName, List.filterMap_cons_none h, ← lastName]

theorem not_issued_cons {write : Write} (h : id ∉ issued (write :: ws)) :
    write.issued? ≠ some id ∧ id ∉ issued ws := by
  simpa [issued, List.mem_filterMap, not_or] using h

theorem not_issued_again {before after : List Write} {name : String} {price : Binary64}
    (h : (issued (before ++ .created id name price :: after)).Nodup) : id ∉ issued after := by
  have hsplit : issued (before ++ .created id name price :: after) =
      issued before ++ id :: issued after := List.filterMap_append
  rw [hsplit, List.nodup_append, List.nodup_cons] at h
  exact h.2.1.1

/-- A write that is no creation of an item leaves it away. -/
theorem next_none {write : Write} (h : write.issued? ≠ some id) : write.next id none = none := by
  cases write with
  | created other name price =>
      have hother : other ≠ id := fun heq => h (congrArg some heq)
      simp [Write.next, hother]
  | renamed other name => simp [Write.next]
  | deleted other => simp [Write.next]

theorem itemAfter_none (h : id ∉ issued ws) : itemAfter id none ws = none := by
  induction ws with
  | nil => rfl
  | cons write rest ih =>
      obtain ⟨hwrite, hrest⟩ := not_issued_cons h
      show itemAfter id (write.next id none) rest = none
      rw [next_none hwrite]
      exact ih hrest

theorem itemAfter_deleted (h : id ∉ issued ws) (hdeleted : Write.deleted id ∈ ws)
    (found : Option Item) : itemAfter id found ws = none := by
  induction ws generalizing found with
  | nil => cases hdeleted
  | cons write rest ih =>
      obtain ⟨-, hrest⟩ := not_issued_cons h
      show itemAfter id (write.next id found) rest = none
      rcases List.mem_cons.mp hdeleted with rfl | hmem
      -- nothing creates the item again
      · simp only [Write.next, if_true]
        exact itemAfter_none hrest
      · exact ih hrest hmem _

theorem itemAfter_live (h : id ∉ issued ws) (hlive : Write.deleted id ∉ ws) (name : String)
    (price : Binary64) :
    itemAfter id (some ⟨id, Text.trim name, price⟩) ws =
      some ⟨id, Text.trim (lastName id name ws), price⟩ := by
  induction ws generalizing name with
  | nil => rfl
  | cons write rest ih =>
      obtain ⟨hwrite, hrest⟩ := not_issued_cons h
      obtain ⟨hkept, hlater⟩ := not_or.mp (mt List.mem_cons.mpr hlive)
      show itemAfter id (write.next id _) rest = _
      cases write with
      | created other n p =>
          have hother : other ≠ id := fun heq => hwrite (congrArg some heq)
          rw [lastName_other rfl, Write.next, if_neg hother]
          exact ih hrest hlater name
      | renamed other n =>
          by_cases hother : other = id
          · subst hother
            rw [lastName_renamed, Write.next, if_pos rfl]
            exact ih hrest hlater n
          · have hname : (Write.renamed other n).newName? id = none := if_neg hother
            rw [lastName_other hname, Write.next, if_neg hother]
            exact ih hrest hlater name
      | deleted other =>
          have hother : other ≠ id := fun heq => hkept (congrArg Write.deleted heq.symm)
          rw [lastName_other rfl, Write.next, if_neg hother]
          exact ih hrest hlater name

/-! ## The three reads

What `require` and `describe` answer depends on what is found alone
(`requireExit`, `describeExit`). -/

section Reads

variable {limit : Nat} {s : State}

theorem get_effect (limit : Nat) (s : State) (id : ItemId) :
    (Call.get id).effect limit false s = .ok (.lookup (s.store.get? id), s) := rfl

theorem require_effect_some {item : Item} (h : s.store.get? id = some item) :
    (Call.require id).effect limit false s = .ok (.item item, s) := by
  simp [Call.effect, h]

theorem require_effect_none (h : s.store.get? id = none) :
    (Call.require id).effect limit false s = .error (Store.missing id) := by
  simp [Call.effect, h]

theorem describe_effect_some {item : Item} (h : s.store.get? id = some item) :
    (Call.describe id).effect limit false s = .ok (.text (Client.line item), s) := by
  simp [Call.effect, h]

theorem describe_effect_none (h : s.store.get? id = none) :
    (Call.describe id).effect limit false s = .ok (.text (id.format ++ " was not found"), s) := by
  simp only [Call.effect, h]
  rfl

end Reads

def requireExit (id : ItemId) : Option Item → Exit (Except Error Call.Reply)
  | some item => .value (.ok (.item item))
  | none => .value (.error (.notFound ("item_" ++ Decimal.format id.value ++ " was not found")))

def describeExit (id : ItemId) : Option Item → Exit (Except Error Call.Reply)
  | some item => .value (.ok (.text ("item_" ++ Decimal.format item.id.value ++ " '" ++ item.name ++
      "' at " ++ Decimal.formatFixed 2 item.price)))
  | none => .value (.ok (.text ("item_" ++ Decimal.format id.value ++ " was not found")))

section Turns

variable {config : Config} {sources : Sources} {signal : Signal} {w : World State}

theorem require_exit (hopen : sources.isCancelled signal = false) (id : ItemId) :
    (Turn.perform config ⟨sources, signal, .require id⟩ w).1 =
      requireExit id (w.state.store.get? id) := by
  cases h : w.state.store.get? id with
  | none =>
      obtain ⟨⟨mark, hexit⟩, -⟩ := Turn.perform_open_error hopen (require_effect_none h)
      exact hexit
  | some item => exact (Turn.perform_open_ok hopen (require_effect_some h)).1

theorem describe_exit (hopen : sources.isCancelled signal = false) (id : ItemId) :
    (Turn.perform config ⟨sources, signal, .describe id⟩ w).1 =
      describeExit id (w.state.store.get? id) := by
  cases h : w.state.store.get? id with
  | none => exact (Turn.perform_open_ok hopen (describe_effect_none h)).1
  | some item => exact (Turn.perform_open_ok hopen (describe_effect_some h)).1

/-- Reads leave the state alone, cancelled or not. -/
theorem perform_reads (config : Config) {turn : Turn} (h : turn.call.Reads) (w : World State) :
    (turn.perform config w).2.state = w.state := by
  rcases turn.perform_cases config w with ⟨e, w', hperform, hstate⟩ | ⟨reply, w', hperform, hch⟩
  · rw [hperform]
    exact hstate
  · rw [hperform]
    obtain ⟨sources, signal, call⟩ := turn
    show w'.state = w.state
    generalize w'.state = s at hch
    cases hch with
    | created => cases h
    | renamed => cases h
    | deleted => cases h
    | read => rfl

end Turns

/-- After any session, and under a signal that is not cancelled, the three
reads of an id agree on what is found under it. That is nothing, if no creation
answered the id or the item was deleted since; otherwise the item has the price
of its creation and the trimmed name of its last renaming. No read changes the
state. -/
theorem reads_answer_last_write (config : Config) (turns : List Turn) (sources : Sources)
    (signal : Signal) (hopen : sources.isCancelled signal = false) (id : ItemId) :
    let t := session config turns
    let ws := writes t.entries
    let result (call : Call) := Turn.perform config ⟨sources, signal, call⟩ t.world
    ∃ found : Option Item,
      (id ∉ issued ws → found = none) ∧
      (∀ before name price after, ws = before ++ .created id name price :: after →
        (.deleted id ∈ after → found = none) ∧
        (.deleted id ∉ after → found = some ⟨id, Text.trim (lastName id name after), price⟩)) ∧
      (result (.get id)).1 = .value (.ok (.lookup found)) ∧
      (result (.require id)).1 = requireExit id found ∧
      (result (.describe id)).1 = describeExit id found ∧
      ∀ call : Call, call.Reads → (result call).2.state = t.world.state := by
  intro t ws result
  have hrecalled : t.world.state.store.get? id = itemAfter id none ws :=
    session_recalled config turns id
  have hnumbered : Numbered t.world.state ws := session_numbered config turns
  refine ⟨t.world.state.store.get? id, ?_, ?_, ?_, require_exit hopen id, describe_exit hopen id,
    fun call hreads => perform_reads config hreads t.world⟩
  · intro hnever
    rw [hrecalled]
    exact itemAfter_none hnever
  · intro before name price after hws
    -- ids are given out once, so the writes afterwards hold no second creation
    have honce : id ∉ issued after := not_issued_again (hws ▸ hnumbered.nodup)
    rw [hrecalled, hws, itemAfter, List.foldl_append, List.foldl_cons, Write.next, if_pos rfl]
    exact ⟨fun hdeleted => itemAfter_deleted honce hdeleted _,
      fun hlive => itemAfter_live honce hlive name price⟩
  · exact (Turn.perform_open_ok hopen (get_effect _ _ id)).1

theorem renamed_item_read :
    let w := (session {} [⟨[], .never, .create " Lamp" ⟨0x4024000000000000⟩⟩,
      ⟨[], .never, .delete ⟨2⟩⟩, ⟨[], .never, .rename ⟨1⟩ "Desk lamp "⟩]).world
    let result (call : Call) := (Turn.perform {} ⟨[], .never, call⟩ w).1
    Sources.isCancelled [] .never = false ∧
      result (.require ⟨1⟩) = .value (.ok (.item ⟨⟨1⟩, "Desk lamp", ⟨0x4024000000000000⟩⟩)) ∧
      result (.describe ⟨1⟩) = .value (.ok (.text "item_1 'Desk lamp' at 10.00")) := by
  intro w result
  obtain ⟨found, -, hwritten, -, hrequire, hdescribe, -⟩ :=
    reads_answer_last_write {} [⟨[], .never, .create " Lamp" ⟨0x4024000000000000⟩⟩,
      ⟨[], .never, .delete ⟨2⟩⟩, ⟨[], .never, .rename ⟨1⟩ "Desk lamp "⟩] [] .never rfl ⟨1⟩
  have hlive := (hwritten [] " Lamp" ⟨0x4024000000000000⟩ [.renamed ⟨1⟩ "Desk lamp "] (by rfl)).2
    (by decide)
  have hname : Text.trim (lastName ⟨1⟩ " Lamp" [.renamed ⟨1⟩ "Desk lamp "]) = "Desk lamp" := by
    decide
  rw [hlive, requireExit, hname] at hrequire
  rw [hlive, describeExit, hname] at hdescribe
  exact ⟨rfl, hrequire, hdescribe.trans (by decide +kernel)⟩

end Switchboard.Catalog
