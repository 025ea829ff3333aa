import Switchboard.Proofs.Catalog.Audit
import Switchboard.Proofs.Catalog.Index
import Switchboard.Proofs.Catalog.Session

/-!
# The read side

The search index and the audit log never look at the store; they hear of its
changes from the client, one announcement at a time. `ReadSide` is what the
three have in common all the same, whatever calls were made: the index follows
the store, the log has one entry for each creation and deletion, and the ids
that are left when the log is replayed are those of the items.
-/

namespace Switchboard.Catalog

/-- The audit entry of a write: renames have none. -/
def Write.auditEntry? : Write → Option String
  | created id name _ => some (createdLine id (Text.trim name))
  | renamed _ _ => none
  | deleted id => some (deletedLine id)

/-- The agreement of store, index and audit log after a number of writes. -/
structure ReadSide (s : State) (ws : List Write) : Prop where
  index : s.index.Follows s.store
  audit : s.audit = ws.filterMap Write.auditEntry?
  replayed : replay s.audit = s.store.ids

namespace ReadSide

variable {s : State} {ws : List Write} {name : String} {price : Binary64} {id : ItemId}
  {item : Item} {store : Store}

theorem start : ReadSide {} [] where
  index := rfl
  audit := rfl
  replayed := rfl

theorem created (hs : s.store.Sound) (h : ReadSide s ws)
    (hinsert : s.store.insert (Text.trim name) price = .ok (item, store)) :
    ReadSide (State.announced .created ⟨item.id, Text.trim name⟩ { s with store })
      (ws ++ [.created item.id name price]) where
  index := Index.follows_insert h.index hinsert
  audit := by
    rw [List.filterMap_append, ← h.audit]
    rfl
  replayed := by
    show replay (s.audit ++ [createdLine item.id (Text.trim name)]) = store.ids
    rw [replay_append_singleton, replayEntry_created, h.replayed,
      Store.ids_insert hs hinsert]

theorem renamed (hs : s.store.Sound) (h : ReadSide s ws)
    (hrename : s.store.rename id (Text.trim name) = .ok (item, store)) :
    ReadSide (State.announced .renamed ⟨item.id, item.name⟩ { s with store })
      (ws ++ [.renamed id name]) where
  index := Index.follows_rename h.index hs hrename
  audit := by
    rw [List.filterMap_append, ← h.audit]
    rfl
  replayed := by
    show replay (s.audit ++ []) = store.ids
    rw [List.append_nil, h.replayed, Store.ids_rename hs hrename]

theorem deleted (hs : s.store.Sound) (h : ReadSide s ws)
    (hremove : s.store.remove id = .ok (item, store)) :
    ReadSide (State.announced .deleted ⟨id⟩ { s with store }) (ws ++ [.deleted id]) where
  index := Index.follows_remove h.index hremove
  audit := by
    rw [List.filterMap_append, ← h.audit]
    rfl
  replayed := by
    show replay (s.audit ++ [deletedLine id]) = store.ids
    rw [replay_append_singleton, replayEntry_deleted, h.replayed,
      Store.ids_remove hs hremove]

theorem of_session (config : Config) (turns : List Turn) :
    ReadSide (session config turns).world.state (writes (session config turns).entries) :=
  session_induction config start created renamed deleted turns

end ReadSide

/-- After any calls the index maps the id of each item to its folded name and
nothing else, so that a search lists, ascending, the ids of just the live items
whose folded name contains the folded term. The audit log is the list of the
creations and deletions that succeeded, and replaying it leaves the ids of the
live items. No call panics. -/
theorem read_side_agrees (config : Config) (turns : List Turn) :
    let t := session config turns
    let s := t.world.state
    s.index = s.store.toList.map (fun item => (item.id.value, foldName item.name)) ∧
      (∀ term, ((s.index.search term).Pairwise fun a b => a.value < b.value) ∧
        ∀ id, id ∈ s.index.search term ↔
          ∃ item, s.store.get? id = some item ∧
            (foldName term).toList <:+: (foldName item.name).toList) ∧
      s.audit = (writes t.entries).filterMap Write.auditEntry? ∧
      (replay s.audit = s.store.ids ∧ ∀ id, id ∈ s.store.ids ↔ (s.store.get? id).isSome) ∧
      ∀ record ∈ t.entries, ∃ result, record.2 = .value result := by
  intro t s
  have hread : ReadSide s (writes t.entries) := ReadSide.of_session config turns
  have hs : s.store.Sound := session_sound config turns
  have hsorted := hread.index.sorted hs
  refine ⟨hread.index.eq_toList hs, fun term => ⟨?_, fun id => ?_⟩, hread.audit,
    ⟨hread.replayed, fun id => hs.mem_ids⟩, session_answers config turns⟩
  · exact Index.search_ascending hsorted
  · exact hread.index.mem_search hs

end Switchboard.Catalog
