import Switchboard.Proofs.Catalog.Announcement
import Switchboard.Proofs.Catalog.Call
import Switchboard.Proofs.Interference

/-!
# Calls under interference

What a call of the catalog does to the store if its signal may be cancelled at
any point of it. It does not do a part of its work: the store is the one that
the call found, or the one that its request decides on (`Request.effect`), and
in the end the answer says which (`ensures_call`). Only the announcement may be
cut short, and it does not touch the store.
-/

namespace Switchboard.Catalog

variable {α : Type} {I : State → Prop} {s : State} {signal : Signal}

/-! ## Handlers -/

theorem ensures_commit {operation : Store → Except Failure.Cause (α × Store)}
    {Q : Exit (Outcome α) → State → Prop} (hs : I s)
    (hstored : ∀ a store, operation s.store = .ok (a, store) →
      I { s with store } ∧ Q (.value (.ok a)) { s with store })
    (hfailed : ∀ cause, operation s.store = .error cause →
      ∀ mark, Q (.value (.error ⟨mark, cause⟩)) s) :
    (commit operation).Ensures I Q s := by
  simp only [commit, state, bind_assoc, pure_bind, Action.ensures_state_bind, Holder.view]
  cases h : operation s.store with
  | ok result =>
      obtain ⟨a, store⟩ := result
      simp only [modify, Action.ensures_modifyState_bind, Action.ensures_pure]
      exact ⟨hs, hstored a store h⟩
  | error cause => exact Action.ensures_fail.mpr fun mark => ⟨hs, hfailed cause h mark⟩

theorem ensures_unlessCancelled {Q : Exit (Outcome α) → State → Prop}
    (hshut : ∀ mark, Q (.value (.error ⟨mark, .cancelled⟩)) s) {act : Action State (Outcome α)}
    (h : act.Ensures I Q s) : (unlessCancelled signal act).Ensures I Q s := by
  rw [unlessCancelled, Action.ensures_check_bind]
  exact ⟨h, fun mark => Action.ensures_pure.mpr ⟨h.start, hshut mark⟩⟩

/-! ## Requests -/

/-- How a request can end, and the state that it then leaves: with a failure and as it
found it, or with the reply and the store that it decides on. -/
def Request.Settled (limit : Nat) (s : State) (k : Request) (body : Body k) :
    Exit (Outcome (Reply k)) → State → Prop
  | .value (.ok reply), s' =>
    ∃ store, k.effect limit s.store body = .ok (reply, store) ∧ s' = { s with store }
  | .value (.error _), s' => s' = s
  | .panicked _, _ => False

theorem ensures_requestChain {topic : Topic} {limit : Nat} {k : Request} {body : Body k} (hs : I s)
    (hstored : ∀ reply store, k.effect limit s.store body = .ok (reply, store) →
      I { s with store }) :
    (chain topic (handler k) (.logging k :: validators limit k) body signal).Ensures I
      (k.Settled limit s body) s := by
  refine ensures_chain_logging (fun _ => rfl) ?_
  cases k with
  | create =>
      refine ensures_chain_validation (fun _ => rfl) (fun _ => ⟨hs, fun _ => rfl⟩) fun hvalid => ?_
      refine ensures_chain_nil (fun _ => rfl) (ensures_unlessCancelled (fun _ => rfl) ?_)
      rw [insertItem, bind_assoc, Action.ensures_bind]
      refine ensures_commit hs (fun item store h => ?_)
        fun cause h mark => Action.ensures_pure.mpr ⟨hs, rfl⟩
      have heffect : Request.effect limit s.store .create body = .ok (item.id, store) := by
        simp [Request.effect, hvalid, h, Except.map]
      have hI := hstored _ _ heffect
      refine ⟨hI, ?_⟩
      simp only [Action.then_value, bind_assoc, pure_bind, Action.ensures_log_bind,
        Action.ensures_pure]
      exact ⟨hI, store, heffect, rfl⟩
  | get =>
      refine ensures_chain_nil (fun _ => rfl) ?_
      simp only [handler, handleGet, state, bind_assoc, Action.ensures_state_bind, pure_bind,
        Action.ensures_log_bind, Action.ensures_pure]
      exact ⟨hs, s.store, rfl, rfl⟩
  | rename =>
      refine ensures_chain_validation (fun _ => rfl) (fun _ => ⟨hs, fun _ => rfl⟩) fun hvalid => ?_
      refine ensures_chain_nil (fun _ => rfl) (ensures_unlessCancelled (fun _ => rfl) ?_)
      rw [Action.ensures_bind]
      refine ensures_commit hs (fun item store h => ?_)
        fun cause h mark => Action.ensures_pure.mpr ⟨hs, rfl⟩
      have heffect : Request.effect limit s.store .rename body = .ok (item, store) := by
        simp [Request.effect, hvalid, h]
      have hI := hstored _ _ heffect
      refine ⟨hI, ?_⟩
      simp only [Action.then_value, Action.ensures_log_bind, Action.ensures_pure]
      exact ⟨hI, store, heffect, rfl⟩
  | delete =>
      refine ensures_chain_nil (fun _ => rfl) (ensures_unlessCancelled (fun _ => rfl) ?_)
      rw [Action.ensures_bind]
      refine ensures_commit hs (fun item store h => ?_)
        fun cause h mark => Action.ensures_pure.mpr ⟨hs, rfl⟩
      have heffect : Request.effect limit s.store .delete body = .ok ((), store) := by
        simp [Request.effect, h, Except.map]
      have hI := hstored _ _ heffect
      refine ⟨hI, ?_⟩
      simp only [Action.then_value, Action.ensures_log_bind, Action.ensures_pure]
      exact ⟨hI, store, heffect, rfl⟩

/-! ## What a call can leave -/

namespace Call

/-- Everything that a call that succeeds can have answered, and the store that it can
have left. -/
inductive Stored (limit : Nat) (s : Store) : Call → Call.Reply → Store → Prop
  | created {name price item store} (hvalid : validateCreate limit ⟨name, price⟩ = [])
      (h : s.insert (Text.trim name) price = .ok (item, store)) :
      Stored limit s (create name price) (.id item.id) store
  | renamed {id name item store} (hvalid : validateRename limit ⟨id, name⟩ = [])
      (h : s.rename id (Text.trim name) = .ok (item, store)) :
      Stored limit s (rename id name) (.item item) store
  | deleted {id item store} (h : s.remove id = .ok (item, store)) :
      Stored limit s (delete id) .unit store
  | read {call reply} (h : call.Reads) : Stored limit s call reply s

/-- A state that a call can come through: with the store that the call found, or with
one that it can leave. -/
def Between (limit : Nat) (call : Call) (s s' : State) : Prop :=
  s'.store = s.store ∨ ∃ reply, call.Stored limit s.store reply s'.store

/-- How a call can end, and the state that it then leaves. -/
def Ended (limit : Nat) (call : Call) (s : State) (exit : Exit (Except Error Call.Reply))
    (s' : State) : Prop :=
  (∃ e, exit = .value (.error e) ∧ s'.store = s.store) ∨
    ∃ reply, exit = .value (.ok reply) ∧ call.Stored limit s.store reply s'.store

end Call

section Client

variable {ρ ν : Type} [Requests ρ] [Messages ν] [DecidableEq ρ] [DecidableEq ν] {config : Config}

theorem ensures_request {k : Request} {body : Body k} (hs : I s)
    (hstored : ∀ reply store,
      k.effect config.maxNameLength.toNat s.store body = .ok (reply, store) → I { s with store }) :
    ((client config signal : Client State ρ ν).request k body).Ensures I
      (fun exit s' => ∃ o, exit = .value (.ok o) ∧
        k.Settled config.maxNameLength.toNat s body (.value o) s') s := by
  refine Mediator.ensures_send (m := wired config) (registry_handler _ k)
    (registry_interceptors _ k) ?_
  refine (ensures_requestChain hs hstored).mono fun exit s' _ h => ?_
  cases exit with
  | value o => exact ⟨o, rfl, h⟩
  | panicked p => cases h

/-! ## Announcements -/

/-- The state has this store. -/
def HasStore (store : Store) (s : State) : Prop := s.store = store

theorem ensures_auditListener {n : Notification} {event : Body n} {store : Store}
    (hI : ∀ s, HasStore store s → I s) (hs : HasStore store s) :
    (auditListener n event signal).Ensures I (fun _ => HasStore store) s := by
  unfold auditListener
  cases auditLine? n event with
  | none => exact Action.ensures_pure.mpr ⟨hI s hs, hs⟩
  | some entry =>
      simp only [modify, Action.ensures_log_bind, Action.ensures_modifyState_bind,
        Action.ensures_pure]
      exact ⟨hI s hs, hI _ hs, hs⟩

theorem ensures_indexListener {n : Notification} {event : Body n} {store : Store}
    (hI : ∀ s, HasStore store s → I s) (hs : HasStore store s) :
    (indexListener n event signal).Ensures I (fun _ => HasStore store) s := by
  simp only [indexListener, modify, Action.ensures_modifyState_bind, Action.ensures_pure]
  exact ⟨hI s hs, hI _ hs, hs⟩

theorem ensures_listener {n : Notification} {event : Body n} {store : Store}
    (hI : ∀ s, HasStore store s → I s) (hs : HasStore store s) :
    ∀ listener ∈ listeners n,
      (listener event signal).Ensures I (fun _ => HasStore store) s := by
  cases n with
  | created | deleted =>
      simp only [listeners, List.forall_mem_cons]
      exact ⟨ensures_auditListener hI hs, ensures_indexListener hI hs, nofun⟩
  | renamed => exact List.forall_mem_singleton.mpr (ensures_indexListener hI hs)

/-- However far an announcement comes, it leaves the store alone. -/
theorem ensures_announce {n : Notification} {event : Body n} {store : Store}
    (hI : ∀ s, HasStore store s → I s) (hs : HasStore store s) :
    ((client config signal : Client State ρ ν).announce n event).Ensures I
      (Quiet (HasStore store)) s := by
  have hkeeps : ∀ listener ∈ listeners n, (wired (ρ := ρ) (ν := ν) config).Keeps (.inl n) event
      signal I (HasStore store) listener := by
    intro listener hmem index s hs
    refine Mediator.ensures_deliver (m := wired config) (registry_listenerInterceptors _ n) ?_
    refine ensures_chain_listenerLogging (fun _ => ⟨⟨_, rfl⟩, hs⟩) ?_
    exact ensures_chain_panicBoundary hs
      (ensures_chain_nil (fun _ => hs) (ensures_listener hI hs listener hmem))
  rw [Client.announce, Action.ensures_bind]
  refine (Mediator.ensures_publish (m := wired config) hI (registry_listeners _ n) hkeeps
    hs).mono fun exit s hs h => ?_
  obtain ⟨⟨result, rfl⟩, hstore⟩ := h
  cases result with
  | ok _ => exact Action.ensures_pure.mpr ⟨hs, ⟨_, rfl⟩, hstore⟩
  | error e => exact Action.ensures_log.mpr ⟨hs, ⟨_, rfl⟩, hstore⟩

/-! ## Calls -/

/-- A write leaves the store that it found, or the one that its request decides on; at the
end the answer says which. -/
theorem ensures_write (op : Operation) {refuse : Failure → Action State Unit}
    (hrefuse : ∀ f (Q : Exit Unit → State → Prop) s, I s → Q (.value ()) s →
      (refuse f).Ensures I Q s)
    (hfound : ∀ s', HasStore s.store s' → I s')
    (hstored : ∀ reply store,
      op.request.effect config.maxNameLength.toNat s.store op.body = .ok (reply, store) →
        ∀ s', HasStore store s' → I s') :
    ((client config signal : Client State ρ ν).write op refuse).Ensures I
      (fun exit s' => (∃ e, exit = .value (.error e) ∧ s'.store = s.store) ∨
        ∃ reply, exit = .value (.ok reply) ∧
          op.request.effect config.maxNameLength.toNat s.store op.body = .ok (reply, s'.store))
      s := by
  rw [Client.write, Action.ensures_within, Client.sending, Action.ensures_log_bind,
    Action.ensures_bind]
  refine (ensures_request (hfound s rfl) fun reply store h => hstored reply store h _ rfl).mono
    fun exit s' hs h => ?_
  obtain ⟨o, rfl, h⟩ := h
  cases o with
  | error f =>
      obtain rfl : s' = s := h
      simp only [Action.Then, Client.conclude, Action.ensures_bind]
      exact hrefuse f _ s' hs (Action.ensures_pure.mpr ⟨hs, .inl ⟨_, rfl, rfl⟩⟩)
  | ok reply =>
      obtain ⟨store, heffect, rfl⟩ := h
      simp only [Action.Then, Client.conclude, Action.ensures_bind]
      refine (ensures_announce (s := { s with store }) (hstored reply store heffect) rfl).mono
        fun exit s' hs' h => ?_
      obtain ⟨⟨⟨⟩, rfl⟩, hstore⟩ := h
      obtain rfl : s'.store = store := hstore
      exact Action.ensures_pure.mpr ⟨hs', .inr ⟨reply, rfl, heffect⟩⟩

/-- A read finds what is stored, or fails. -/
theorem ensures_get_bind {id : ItemId} {f : Except DispatchError (Outcome (Option Item)) →
      Action State α} {Q : Exit α → State → Prop} (hs : I s)
    (hfailed : ∀ failure, (f (.ok (.error failure))).Ensures I Q s)
    (hfound : (f (.ok (.ok (s.store.get? id)))).Ensures I Q s) :
    ((client config signal : Client State ρ ν).request .get (⟨id⟩ : GetItem) >>= f).Ensures I Q
      s := by
  rw [Action.ensures_bind]
  have hstored : ∀ reply store, Request.effect config.maxNameLength.toNat s.store .get
      (⟨id⟩ : GetItem) = .ok (reply, store) → I { s with store } := by
    intro reply store h
    cases h
    exact hs
  refine (ensures_request hs hstored).mono fun exit s' _ h => ?_
  obtain ⟨o, rfl, h⟩ := h
  cases o with
  | error failure =>
      obtain rfl : s' = s := h
      exact hfailed failure
  | ok found =>
      obtain ⟨store, heffect, rfl⟩ := h
      cases heffect
      exact hfound

/-- A write whose answer is passed on. -/
theorem ensures_map_write (config : Config) (call : Call) (op : Operation)
    {refuse : Failure → Action State Unit}
    (hrefuse : ∀ f (I : State → Prop) (Q : Exit Unit → State → Prop) s, I s → Q (.value ()) s →
      (refuse f).Ensures I Q s) (answer : Reply op.request → Call.Reply)
    (hstored : ∀ reply store,
      op.request.effect config.maxNameLength.toNat s.store op.body = .ok (reply, store) →
        call.Stored config.maxNameLength.toNat s.store (answer reply) store) :
    ((client config signal : Client State ρ ν).write op refuse >>= fun result =>
      pure (result.map answer)).Ensures
      (call.Between config.maxNameLength.toNat s) (call.Ended config.maxNameLength.toNat s) s := by
  have hbetween : ∀ reply store,
      op.request.effect config.maxNameLength.toNat s.store op.body = .ok (reply, store) →
        ∀ s', HasStore store s' → call.Between config.maxNameLength.toNat s s' := by
    rintro reply store h s' rfl
    exact .inr ⟨answer reply, hstored reply _ h⟩
  rw [Action.ensures_bind]
  refine (ensures_write op (fun f => hrefuse f _) (fun _ => .inl) hbetween).mono
    fun exit s' hs' h => ?_
  rcases h with ⟨e, rfl, hfound⟩ | ⟨reply, rfl, heffect⟩
  · exact Action.ensures_pure.mpr ⟨hs', .inl ⟨e, rfl, hfound⟩⟩
  · exact Action.ensures_pure.mpr ⟨hs', .inr ⟨answer reply, rfl, hstored reply _ heffect⟩⟩

/-- A read that leaves the state alone, and whose answer is passed on. -/
theorem ensures_map_read {limit : Nat} (call : Call) (hreads : call.Reads)
    {act : Action State (Except Error α)} (answer : α → Call.Reply)
    (h : act.Ensures (call.Between limit s) (Quiet (· = s)) s) :
    (act >>= fun result => pure (result.map answer)).Ensures (call.Between limit s)
      (call.Ended limit s) s := by
  rw [Action.ensures_bind]
  refine h.mono fun exit s' hs' h => ?_
  obtain ⟨⟨result, rfl⟩, rfl⟩ := h
  refine Action.ensures_pure.mpr ⟨hs', ?_⟩
  cases result with
  | error e => exact .inl ⟨e, rfl, rfl⟩
  | ok a => exact .inr ⟨answer a, rfl, .read hreads⟩

/-- Whatever becomes of its signal while it runs, a call ends with an answer, and the
store is then, and at every point before, the one that it found or one that it can
leave. -/
theorem ensures_call (config : Config) (signal : Signal) (call : Call) (s : State) :
    (call.run (client config signal : Client State ρ ν)).Ensures
      (call.Between config.maxNameLength.toNat s) (call.Ended config.maxNameLength.toNat s) s := by
  have hquiet {α : Type} {x : α} : (pure x : Action State α).Ensures
      (call.Between config.maxNameLength.toNat s) (Quiet (· = s)) s :=
    Action.ensures_pure.mpr ⟨.inl rfl, ⟨_, rfl⟩, rfl⟩
  cases call with
  | create name price =>
      rw [Call.run, Client.create_eq_write]
      refine ensures_map_write config (.create name price) (.create name price)
        (fun f I Q s hI hQ => ?_) .id fun reply store h => ?_
      · exact Action.ensures_log.mpr ⟨hI, hQ⟩
      · obtain ⟨hvalid, item, hinsert, rfl⟩ := Call.request_create_ok h
        exact .created hvalid hinsert
  | rename id name =>
      rw [Call.run, Client.rename_eq_write]
      refine ensures_map_write config (.rename id name) (.rename id name)
        (fun f I Q s hI hQ => ?_) .item fun reply store h => ?_
      · exact Action.ensures_pure.mpr ⟨hI, hQ⟩
      · obtain ⟨hvalid, hrename⟩ := Call.request_rename_ok h
        exact .renamed hvalid hrename
  | delete id =>
      rw [Call.run, Client.delete_eq_write]
      refine ensures_map_write config (.delete id) (.delete id)
        (fun f I Q s hI hQ => ?_) (fun () => .unit) fun reply store h => ?_
      · exact Action.ensures_pure.mpr ⟨hI, hQ⟩
      · obtain ⟨item, hremove⟩ := Call.request_delete_ok h
        exact .deleted hremove
  | get id =>
      refine ensures_map_read (.get id) trivial .lookup ?_
      rw [Client.get, Action.ensures_within, Client.sending, Action.ensures_log_bind]
      exact ensures_get_bind (.inl rfl) (fun failure => hquiet) hquiet
  | require id =>
      refine ensures_map_read (.require id) trivial .item ?_
      rw [Client.require, Action.ensures_within]
      refine ensures_get_bind (.inl rfl) (fun failure => hquiet) ?_
      cases s.store.get? id with
      | none => exact Action.ensures_fail_bind.mpr fun mark => hquiet
      | some item => exact hquiet
  | describe id =>
      refine ensures_map_read (.describe id) trivial .text ?_
      rw [Client.describe, Action.ensures_within]
      refine ensures_get_bind (.inl rfl) (fun failure => hquiet) ?_
      cases s.store.get? id with
      | none => exact Action.ensures_fail_bind.mpr fun mark => hquiet
      | some item => exact hquiet

end Client

end Switchboard.Catalog
