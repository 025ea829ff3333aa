import Switchboard.Proofs.Catalog.Wiring

/-!
# What a call does

`Call.effect` is the catalog in one place: what each call of the client
answers and what it changes, as a plain function of the state. `eval_call`
proves that the wired catalog does just that, and `Call.effect_ok` sums up the
changes: a call that succeeds is a read and leaves the state alone, or it
creates, renames or deletes one item and announces it (`Call.Changed`).
-/

namespace Switchboard.Catalog

/-- The cause of a call's failure, or its reply and the state that it leaves. -/
def Call.effect (limit : Nat) (cancelled : Bool) (s : State) :
    Call → Except Failure.Cause (Call.Reply × State)
  | .create name price =>
    match Request.answer limit cancelled s.store .create (⟨name, price⟩ : CreateItem) with
    | .ok ((id : ItemId), store) =>
      .ok (.id id, State.announced .created ⟨id, Text.trim name⟩ { s with store })
    | .error cause => .error cause
  | .get id =>
    if cancelled then .error .cancelled else .ok (.lookup (s.store.get? id), s)
  | .require id =>
    if cancelled then .error .cancelled
    else match s.store.get? id with
      | some item => .ok (.item item, s)
      | none => .error (Store.missing id)
  | .rename id name =>
    match Request.answer limit cancelled s.store .rename (⟨id, name⟩ : RenameItem) with
    | .ok ((item : Item), store) =>
      .ok (.item item, State.announced .renamed ⟨item.id, item.name⟩ { s with store })
    | .error cause => .error cause
  | .delete id =>
    match Request.answer limit cancelled s.store .delete (⟨id⟩ : DeleteItem) with
    | .ok (_, store) => .ok (.unit, State.announced .deleted ⟨id⟩ { s with store })
    | .error cause => .error cause
  | .describe id =>
    if cancelled then .ok (.text Failure.Cause.cancelled.message, s)
    else match s.store.get? id with
      | some item => .ok (.text (Client.line item), s)
      | none => .ok (.text (Store.missing id).message, s)

/-- How a call ends, and the world that it leaves, if its effect is this one. -/
def Call.settle (w : World State) (mark : Nat) :
    Except Failure.Cause (Call.Reply × State) → Exit (Except Error Call.Reply) × World State
  | .ok (reply, s) => (.value (.ok reply), { w with state := s, nextMark := mark })
  | .error cause => (.value (.error (.ofFailure (w.fresh cause))), { w with nextMark := mark })

theorem not_cancelled_of_answer {limit : Nat} {cancelled : Bool} {s : Store} {k : Request}
    {body : Body k} {result : Reply k × Store}
    (h : k.answer limit cancelled s body = .ok result) : cancelled = false := by
  cases cancelled with
  | false => rfl
  | true => cases h

theorem effect_of_answer {limit : Nat} {cancelled : Bool} {s : Store} {k : Request}
    {body : Body k} {result : Reply k × Store}
    (h : k.answer limit cancelled s body = .ok result) : k.effect limit s body = .ok result := by
  obtain rfl := not_cancelled_of_answer h
  exact h

section

variable {ρ ν : Type} [Requests ρ] [Messages ν] [DecidableEq ρ] [DecidableEq ν]

/-- The call ends and changes the state as its effect says. -/
def Call.Faithful (config : Config) (signal : Signal) (w : World State) (c : Call) : Prop :=
  ∃ mark, (c.run (client config signal : Client State ρ ν)).eval w =
    Call.settle w mark
      (c.effect config.maxNameLength.toNat (w.sources.isCancelled signal) w.state)

variable (config : Config) (signal : Signal) (w : World State)

theorem faithful_create (name : String) (price : Binary64) :
    Call.Faithful (ρ := ρ) (ν := ν) config signal w (.create name price) := by
  simp only [Call.Faithful, Call.run, Client.create, Client.sending, Action.eval_bind,
    Action.eval_within, Action.eval_log, eval_request, Call.effect]
  cases h : Request.answer config.maxNameLength.toNat (w.sources.isCancelled signal)
      w.state.store .create (⟨name, price⟩ : CreateItem) with
  | error cause => exact ⟨_, rfl⟩
  | ok result =>
      have hannounce := eval_announce (ρ := ρ) (ν := ν) config (committed w result.2)
        (not_cancelled_of_answer h) .created ⟨result.1, Text.trim name⟩
      refine ⟨w.nextMark, ?_⟩
      simp only [settle, Exit.map_value, Action.eval_bind, hannounce]
      rfl

theorem faithful_get (id : ItemId) :
    Call.Faithful (ρ := ρ) (ν := ν) config signal w (.get id) := by
  simp only [Call.Faithful, Call.run, Client.get, Client.sending, Action.eval_bind,
    Action.eval_within, Action.eval_log, eval_request, Call.effect, Request.answer]
  cases w.sources.isCancelled signal with
  | true => exact ⟨_, rfl⟩
  | false => exact ⟨_, rfl⟩

theorem faithful_require (id : ItemId) :
    Call.Faithful (ρ := ρ) (ν := ν) config signal w (.require id) := by
  simp only [Call.Faithful, Call.run, Client.require, Action.eval_bind, Action.eval_within,
    eval_request, Call.effect, Request.answer, Request.effect]
  cases w.sources.isCancelled signal with
  | true => exact ⟨_, rfl⟩
  | false =>
      cases w.state.store.get? id with
      | none => exact ⟨_, rfl⟩
      | some item => exact ⟨_, rfl⟩

theorem faithful_rename (id : ItemId) (name : String) :
    Call.Faithful (ρ := ρ) (ν := ν) config signal w (.rename id name) := by
  simp only [Call.Faithful, Call.run, Client.rename, Client.sending, Action.eval_bind,
    Action.eval_within, Action.eval_log, eval_request, Call.effect]
  cases h : Request.answer config.maxNameLength.toNat (w.sources.isCancelled signal)
      w.state.store .rename (⟨id, name⟩ : RenameItem) with
  | error cause => exact ⟨_, rfl⟩
  | ok result =>
      have hannounce := eval_announce (ρ := ρ) (ν := ν) config (committed w result.2)
        (not_cancelled_of_answer h) .renamed ⟨result.1.id, result.1.name⟩
      refine ⟨w.nextMark, ?_⟩
      simp only [settle, Exit.map_value, Action.eval_bind, hannounce]
      rfl

theorem faithful_delete (id : ItemId) :
    Call.Faithful (ρ := ρ) (ν := ν) config signal w (.delete id) := by
  simp only [Call.Faithful, Call.run, Client.delete, Client.sending, Action.eval_bind,
    Action.eval_within, Action.eval_log, eval_request, Call.effect]
  cases h : Request.answer config.maxNameLength.toNat (w.sources.isCancelled signal)
      w.state.store .delete (⟨id⟩ : DeleteItem) with
  | error cause => exact ⟨_, rfl⟩
  | ok result =>
      obtain ⟨⟨⟩, store⟩ := result
      have hannounce := eval_announce (ρ := ρ) (ν := ν) config (committed w store)
        (not_cancelled_of_answer h) .deleted ⟨id⟩
      refine ⟨w.nextMark, ?_⟩
      simp only [settle, Exit.map_value, Action.eval_bind, hannounce]
      rfl

theorem faithful_describe (id : ItemId) :
    Call.Faithful (ρ := ρ) (ν := ν) config signal w (.describe id) := by
  simp only [Call.Faithful, Call.run, Client.describe, Action.eval_bind, Action.eval_within,
    eval_request, Call.effect, Request.answer, Request.effect]
  cases w.sources.isCancelled signal with
  | true => exact ⟨_, rfl⟩
  | false =>
      cases w.state.store.get? id with
      | none => exact ⟨_, rfl⟩
      | some item => exact ⟨_, rfl⟩

/-- Every call of the wired catalog is faithful. None panics. -/
theorem eval_call (c : Call) : Call.Faithful (ρ := ρ) (ν := ν) config signal w c := by
  cases c with
  | create name price => exact faithful_create config signal w name price
  | get id => exact faithful_get config signal w id
  | require id => exact faithful_require config signal w id
  | rename id name => exact faithful_rename config signal w id name
  | delete id => exact faithful_delete config signal w id
  | describe id => exact faithful_describe config signal w id

end

/-! ## What a call can change -/

namespace Call

def Reads : Call → Prop
  | get _ | require _ | describe _ => True
  | create _ _ | rename _ _ | delete _ => False

/-- Everything that a call that succeeds can have answered, and the state that
it can have left. -/
inductive Changed (s : State) : Call → Call.Reply → State → Prop
  | created {name price item store}
      (h : s.store.insert (Text.trim name) price = .ok (item, store)) :
      Changed s (create name price) (.id item.id)
        (State.announced .created ⟨item.id, Text.trim name⟩ { s with store })
  | renamed {id name item store} (h : s.store.rename id (Text.trim name) = .ok (item, store)) :
      Changed s (rename id name) (.item item)
        (State.announced .renamed ⟨item.id, item.name⟩ { s with store })
  | deleted {id item store} (h : s.store.remove id = .ok (item, store)) :
      Changed s (delete id) .unit (State.announced .deleted ⟨id⟩ { s with store })
  | read {call reply} (h : call.Reads) : Changed s call reply s

variable {limit : Nat} {cancelled : Bool} {s s' : State} {call : Call} {reply : Call.Reply}

/-- A creation that is carried out was valid, and the store carried it out. -/
theorem request_create_ok {store store' : Store} {name : String} {price : Binary64} {id : ItemId}
    (h : Request.effect limit store .create (⟨name, price⟩ : CreateItem) = .ok (id, store')) :
    validateCreate limit ⟨name, price⟩ = [] ∧
      ∃ item, store.insert (Text.trim name) price = .ok (item, store') ∧ item.id = id := by
  simp only [Request.effect] at h
  split at h
  · rename_i hvalid
    cases hinsert : store.insert (Text.trim name) price with
    | error cause =>
        rw [hinsert] at h
        cases h
    | ok result =>
        rw [hinsert] at h
        cases h
        exact ⟨hvalid, result.1, rfl, rfl⟩
  · cases h

theorem request_rename_ok {store store' : Store} {id : ItemId} {name : String} {item : Item}
    (h : Request.effect limit store .rename (⟨id, name⟩ : RenameItem) = .ok (item, store')) :
    validateRename limit ⟨id, name⟩ = [] ∧
      store.rename id (Text.trim name) = .ok (item, store') := by
  simp only [Request.effect] at h
  split at h
  · rename_i hvalid
    exact ⟨hvalid, h⟩
  · cases h

theorem request_delete_ok {store store' : Store} {id : ItemId}
    (h : Request.effect limit store .delete (⟨id⟩ : DeleteItem) = .ok ((), store')) :
    ∃ item, store.remove id = .ok (item, store') := by
  simp only [Request.effect] at h
  cases hremove : store.remove id with
  | error cause =>
      rw [hremove] at h
      cases h
  | ok result =>
      rw [hremove] at h
      cases h
      exact ⟨result.1, rfl⟩

theorem effect_ok (h : call.effect limit cancelled s = .ok (reply, s')) :
    Changed s call reply s' := by
  cases call with
  | create name price =>
      simp only [effect] at h
      split at h
      · rename_i id store hanswer
        cases h
        obtain ⟨-, item, hinsert, rfl⟩ := request_create_ok (effect_of_answer hanswer)
        exact .created hinsert
      · cases h
  | get id =>
      simp only [effect] at h
      split at h
      · cases h
      · cases h
        exact .read trivial
  | require id =>
      simp only [effect] at h
      split at h
      · cases h
      · split at h
        · cases h
          exact .read trivial
        · cases h
  | rename id name =>
      simp only [effect] at h
      split at h
      · rename_i item store hanswer
        cases h
        exact .renamed (request_rename_ok (effect_of_answer hanswer)).2
      · cases h
  | delete id =>
      simp only [effect] at h
      split at h
      · rename_i reply store hanswer
        cases h
        obtain ⟨item, hremove⟩ := request_delete_ok (effect_of_answer hanswer)
        exact .deleted hremove
      · cases h
  | describe id =>
      simp only [effect] at h
      split at h
      · cases h
        exact .read trivial
      · split at h
        · cases h
          exact .read trivial
        · cases h
          exact .read trivial

end Call

end Switchboard.Catalog
