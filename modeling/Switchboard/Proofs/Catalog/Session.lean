import Mathlib.Data.List.Nodup
import Switchboard.Proofs.Catalog.Call
import Switchboard.Proofs.Catalog.Store
import Switchboard.Proofs.Transcript

/-!
# Sessions with the catalog

Any number of calls, one after the other, on a catalog that starts empty. A
`Turn` is a call with the cancellation sources as they stand when it is made:
between two calls anything may have happened to them, but none of them changes
while a call runs.

Most of a session changes nothing. `session_induction` is the induction over
what is left, the writes that succeeded; every invariant of sessions is proved
by it, from one case for each kind of write.
-/

namespace Switchboard.Catalog

/-- A call, the signal it is made under, and the sources it is made in. -/
structure Turn where
  sources : Sources
  signal : Signal
  call : Call

namespace Turn

def cancelled (turn : Turn) : Bool :=
  turn.sources.isCancelled turn.signal

/-- Makes the call through a client of the wired catalog. -/
def perform (config : Config) (turn : Turn) (w : World State) :
    Exit (Except Error Call.Reply) × World State :=
  (turn.call.run (client config turn.signal : Client State Empty Empty)).eval
    { w with sources := turn.sources }

/-- A turn ends and changes the state as the effect of its call says. -/
theorem perform_effect (config : Config) (turn : Turn) (w : World State) :
    ∃ mark, turn.perform config w =
      Call.settle { w with sources := turn.sources } mark
        (turn.call.effect config.maxNameLength.toNat turn.cancelled w.state) :=
  eval_call config turn.signal { w with sources := turn.sources } turn.call

variable {config : Config} (turn : Turn) {w : World State}

theorem perform_of_ok {reply : Call.Reply} {s : State}
    (h : turn.call.effect config.maxNameLength.toNat turn.cancelled w.state = .ok (reply, s)) :
    ∃ w', turn.perform config w = (.value (.ok reply), w') ∧ w'.state = s := by
  obtain ⟨mark, hperform⟩ := turn.perform_effect config w
  rw [h] at hperform
  exact ⟨_, hperform, rfl⟩

theorem perform_of_error {cause : Failure.Cause}
    (h : turn.call.effect config.maxNameLength.toNat turn.cancelled w.state = .error cause) :
    ∃ mark w', turn.perform config w = (.value (.error (.ofFailure ⟨mark, cause⟩)), w') ∧
      w'.state = w.state := by
  obtain ⟨mark, hperform⟩ := turn.perform_effect config w
  rw [h] at hperform
  exact ⟨_, _, hperform, rfl⟩

theorem perform_open_ok {sources : Sources} {signal : Signal} {call : Call} {reply : Call.Reply}
    {s : State} (hopen : sources.isCancelled signal = false)
    (h : call.effect config.maxNameLength.toNat false w.state = .ok (reply, s)) :
    (perform config ⟨sources, signal, call⟩ w).1 = .value (.ok reply) ∧
      (perform config ⟨sources, signal, call⟩ w).2.state = s := by
  rw [← hopen] at h
  obtain ⟨w', hperform, hstate⟩ := perform_of_ok ⟨sources, signal, call⟩ h
  rw [hperform]
  exact ⟨rfl, hstate⟩

theorem perform_open_error {sources : Sources} {signal : Signal} {call : Call}
    {cause : Failure.Cause} (hopen : sources.isCancelled signal = false)
    (h : call.effect config.maxNameLength.toNat false w.state = .error cause) :
    (∃ mark, (perform config ⟨sources, signal, call⟩ w).1 =
        .value (.error (.ofFailure ⟨mark, cause⟩))) ∧
      (perform config ⟨sources, signal, call⟩ w).2.state = w.state := by
  rw [← hopen] at h
  obtain ⟨mark, w', hperform, hstate⟩ := perform_of_error ⟨sources, signal, call⟩ h
  rw [hperform]
  exact ⟨⟨mark, rfl⟩, hstate⟩

variable (config w)

/-- A turn fails and leaves the state alone, or it makes a change. -/
theorem perform_cases :
    (∃ e w', turn.perform config w = (.value (.error e), w') ∧ w'.state = w.state) ∨
      ∃ reply w', turn.perform config w = (.value (.ok reply), w') ∧
        Call.Changed w.state turn.call reply w'.state := by
  cases heffect : turn.call.effect config.maxNameLength.toNat turn.cancelled w.state with
  | error cause =>
      obtain ⟨mark, w', hperform, hstate⟩ := turn.perform_of_error heffect
      exact Or.inl ⟨_, w', hperform, hstate⟩
  | ok result =>
      obtain ⟨reply, s⟩ := result
      obtain ⟨w', hperform, rfl⟩ := turn.perform_of_ok heffect
      exact Or.inr ⟨reply, w', hperform, Call.effect_ok heffect⟩

end Turn

abbrev Record := Turn × Exit (Except Error Call.Reply)

/-- The transcript of a session, from the empty catalog on. -/
def session (config : Config) (turns : List Turn) :
    Transcript State Turn (Except Error Call.Reply) :=
  .of (Turn.perform config) { state := {} } turns

/-- A write that succeeded, with the arguments that it was called with. -/
inductive Write where
  | created (id : ItemId) (name : String) (price : Binary64)
  | renamed (id : ItemId) (name : String)
  | deleted (id : ItemId)
deriving DecidableEq, Repr

/-- The write in a record; reads and calls that failed are none. -/
def write? : Record → Option Write
  | (⟨_, _, .create name price⟩, .value (.ok (.id id))) => some (.created id name price)
  | (⟨_, _, .rename id name⟩, .value (.ok _)) => some (.renamed id name)
  | (⟨_, _, .delete id⟩, .value (.ok _)) => some (.deleted id)
  | _ => none

/-- The writes that succeeded, oldest first. -/
def writes (records : List Record) : List Write :=
  records.filterMap write?

theorem writes_append_none {records : List Record} {record : Record} (h : write? record = none) :
    writes (records ++ [record]) = writes records := by
  simp [writes, h]

theorem writes_append_some {records : List Record} {record : Record} {write : Write}
    (h : write? record = some write) :
    writes (records ++ [record]) = writes records ++ [write] := by
  simp [writes, h]

theorem writes_append (records : List Record) (record : Record) :
    writes (records ++ [record]) = writes records ++ (write? record).toList := by
  cases h : write? record with
  | none => rw [writes_append_none h, Option.toList_none, List.append_nil]
  | some write => exact writes_append_some h

theorem write?_error (turn : Turn) (e : Error) : write? (turn, .value (.error e)) = none := by
  obtain ⟨sources, signal, call⟩ := turn
  cases call <;> rfl

theorem write?_read {turn : Turn} (h : turn.call.Reads) (reply : Call.Reply) :
    write? (turn, .value (.ok reply)) = none := by
  obtain ⟨sources, signal, call⟩ := turn
  cases call <;> first | rfl | cases h

/-- Induction over a session: a property of the state and the writes so far
holds after every session if it holds at the start and survives each kind of
write. The invariant of the store is at hand in every case. -/
theorem session_induction (config : Config) {P : State → List Write → Prop} (start : P {} [])
    (created : ∀ {s ws name price item store}, s.store.Sound → P s ws →
      s.store.insert (Text.trim name) price = .ok (item, store) →
      P (State.announced .created ⟨item.id, Text.trim name⟩ { s with store })
        (ws ++ [.created item.id name price]))
    (renamed : ∀ {s ws id name item store}, s.store.Sound → P s ws →
      s.store.rename id (Text.trim name) = .ok (item, store) →
      P (State.announced .renamed ⟨item.id, item.name⟩ { s with store })
        (ws ++ [.renamed id name]))
    (deleted : ∀ {s ws id item store}, s.store.Sound → P s ws →
      s.store.remove id = .ok (item, store) →
      P (State.announced .deleted ⟨id⟩ { s with store }) (ws ++ [.deleted id]))
    (turns : List Turn) :
    P (session config turns).world.state (writes (session config turns).entries) := by
  refine (Transcript.invariant
    (P := fun t => t.world.state.store.Sound ∧ P t.world.state (writes t.entries)) _
    ⟨Store.sound_empty, start⟩ ?_ turns).2
  intro t turn ⟨hs, ht⟩
  rcases turn.perform_cases config t.world with ⟨e, w, hperform, hstate⟩ | ⟨reply, w, hperform, h⟩
  · rw [Transcript.extend_of_eq hperform]
    show w.state.store.Sound ∧ P w.state (writes (t.entries ++ [(turn, .value (.error e))]))
    rw [writes_append_none (write?_error turn e), hstate]
    exact ⟨hs, ht⟩
  · rw [Transcript.extend_of_eq hperform]
    show w.state.store.Sound ∧ P w.state (writes (t.entries ++ [(turn, .value (.ok reply))]))
    obtain ⟨sources, signal, call⟩ := turn
    generalize w.state = s at h ⊢
    -- the call and its reply are now constructors, and `write?` computes
    cases h with
    | created h =>
        rw [writes_append_some rfl]
        exact ⟨hs.insert h, created hs ht h⟩
    | renamed h =>
        rw [writes_append_some rfl]
        exact ⟨hs.rename h, renamed hs ht h⟩
    | deleted h =>
        rw [writes_append_some rfl]
        exact ⟨hs.remove h, deleted hs ht h⟩
    | read h =>
        rw [writes_append_none (write?_read h reply)]
        exact ⟨hs, ht⟩

theorem session_sound (config : Config) (turns : List Turn) :
    (session config turns).world.state.store.Sound :=
  session_induction config (P := fun s _ => s.store.Sound) Store.sound_empty
    (fun hs _ h => hs.insert h) (fun hs _ h => hs.rename h) (fun hs _ h => hs.remove h) turns

def Write.issued? : Write → Option ItemId
  | created id _ _ => some id
  | renamed _ _ => none
  | deleted _ => none

/-- The ids given out so far, in the order of the creations. -/
def issued (ws : List Write) : List ItemId :=
  ws.filterMap Write.issued?

/-- Creations give out the ids 1, 2, 3 and so on. -/
def Numbered (s : State) (ws : List Write) : Prop :=
  issued ws = (List.range' 1 s.store.lastId).map ItemId.mk

theorem Numbered.created {s s' : State} {ws : List Write} {stored : String} {price : Binary64}
    {item : Item} (h : Numbered s ws)
    (hinsert : s.store.insert stored price = .ok (item, s'.store)) (name : String) :
    Numbered s' (ws ++ [.created item.id name price]) := by
  obtain ⟨-, rfl, hstore⟩ := Store.insert_eq_ok hinsert
  rw [Numbered, issued, List.filterMap_append, ← issued, h, hstore]
  show _ = (List.range' 1 (s.store.lastId + 1)).map ItemId.mk
  rw [List.range'_concat, List.map_append, Nat.one_mul, Nat.add_comm 1]
  rfl

theorem Numbered.other {s s' : State} {ws : List Write} {write : Write} (h : Numbered s ws)
    (hlast : s'.store.lastId = s.store.lastId) (hwrite : write.issued? = none) :
    Numbered s' (ws ++ [write]) := by
  rw [Numbered, issued, List.filterMap_append, ← issued, h, hlast]
  simp [hwrite]

theorem session_numbered (config : Config) (turns : List Turn) :
    Numbered (session config turns).world.state (writes (session config turns).entries) := by
  refine session_induction config rfl ?_ ?_ ?_ turns
  · intro s ws name price item store _ hissued h
    exact hissued.created h name
  · intro s ws id name item store _ hissued h
    obtain ⟨-, -, -, -, rfl⟩ := Store.rename_eq_ok h
    exact hissued.other rfl rfl
  · intro s ws id item store _ hissued h
    obtain ⟨-, rfl⟩ := Store.remove_eq_ok h
    exact hissued.other rfl rfl

theorem Numbered.lastId_eq {s : State} {ws : List Write} (h : Numbered s ws) :
    s.store.lastId = (issued ws).length := by
  rw [show issued ws = _ from h, List.length_map, List.length_range']

theorem Numbered.nodup {s : State} {ws : List Write} (h : Numbered s ws) : (issued ws).Nodup := by
  rw [show issued ws = _ from h]
  exact List.Nodup.map (fun _ _ => congrArg ItemId.value) List.nodup_range'

/-- No call of a session panics. -/
theorem session_answers (config : Config) (turns : List Turn) :
    ∀ record ∈ (session config turns).entries, ∃ result, record.2 = .value result := by
  refine Transcript.invariant
    (P := fun t => ∀ record ∈ t.entries, ∃ result, record.2 = .value result) _ nofun ?_ turns
  intro t turn ht record hmem
  rcases List.mem_append.mp hmem with hmem | hmem
  · exact ht record hmem
  · obtain rfl := List.mem_singleton.mp hmem
    rcases turn.perform_cases config t.world with ⟨e, w, hperform, -⟩ | ⟨reply, w, hperform, -⟩
    · exact ⟨_, congrArg Prod.fst hperform⟩
    · exact ⟨_, congrArg Prod.fst hperform⟩

end Switchboard.Catalog
