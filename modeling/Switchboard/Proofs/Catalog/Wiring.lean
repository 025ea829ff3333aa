import Switchboard.Catalog.Call
import Switchboard.Catalog.System
import Switchboard.Proofs.Dispatch

/-!
# What the wired catalog does

`eval_request` and `eval_announce` say what a request and an announcement of
the wired catalog evaluate to: plain functions of the state, `Request.effect`
and `State.announced`, with the registry, the chains, the logs and the
mediator all gone. What is claimed of the catalog is proved from these two.
-/

namespace Switchboard.Catalog

/-! ## The registry -/

section Tables

variable {σ ρ ν : Type} [Holder σ] [Requests ρ] [Messages ν] [DecidableEq ρ] [DecidableEq ν]

/-- What stands between logging and the handler of a request type. -/
def validators (limit : Nat) : (k : Request) → List (Interceptor σ (Body k) (Reply k))
  | .create => [.validation (.request Request.create) (validateCreate limit)]
  | .get => []
  | .rename => [.validation (.request Request.rename) (validateRename limit)]
  | .delete => []

/-- Who listens to a notification type, in the order of delivery. -/
def listeners : (n : Notification) → List (Handler σ (Body n) Unit)
  | .created => [auditListener .created, indexListener .created]
  | .renamed => [indexListener .renamed]
  | .deleted => [auditListener .deleted, indexListener .deleted]

def registry (limit : Nat) : Registry σ (Request ⊕ ρ) (Notification ⊕ ν) :=
  .ofList (entries limit)

/-- Wiring yields this registry and changes nothing. -/
theorem eval_wire (config : Config) (w : World σ) :
    (wire config : Action σ (Registry σ (Request ⊕ ρ) (Notification ⊕ ν))).eval w =
      (.value (registry config.maxNameLength.toNat), w) := rfl

theorem registry_handler (limit : Nat) (k : Request) :
    (registry limit : Registry σ (Request ⊕ ρ) (Notification ⊕ ν)).lookup.handler (.inl k) =
      pure (.ok (handler k)) := by
  cases k <;> rfl

theorem registry_interceptors (limit : Nat) (k : Request) :
    (registry limit : Registry σ (Request ⊕ ρ) (Notification ⊕ ν)).lookup.interceptors (.inl k) =
      pure (.logging k :: validators limit k) := by
  cases k <;> rfl

theorem registry_listeners (limit : Nat) (n : Notification) :
    (registry limit : Registry σ (Request ⊕ ρ) (Notification ⊕ ν)).lookup.listeners (.inl n) =
      pure (listeners n) := by
  cases n <;> rfl

theorem registry_listenerInterceptors (limit : Nat) (n : Notification) :
    (registry limit : Registry σ (Request ⊕ ρ) (Notification ⊕ ν)).lookup.listenerInterceptors
        (.inl n) =
      pure [.listenerLogging n, .panicBoundary (.notification n)] := by
  cases n <;> rfl

end Tables

/-! ## Handlers -/

def committed (w : World State) (store : Store) : World State :=
  { w with state := { w.state with store } }

@[simp] theorem committed_self (w : World State) : committed w w.state.store = w := rfl

/-- Settles an operation of the store in a world: its store is committed, or
its failure is made. -/
def settle {α : Type} (w : World State) :
    Except Failure.Cause (α × Store) → Exit (Outcome α) × World State
  | .ok (a, store) => (.value (.ok a), committed w store)
  | .error cause => (.value (.error (w.fresh cause)), w.marked)

theorem eval_commit {α : Type} (operation : Store → Except Failure.Cause (α × Store))
    (w : World State) :
    (commit operation).eval w = settle w (operation w.state.store) := by
  simp only [commit, state, modify, Action.eval_bind, Action.eval_state, Action.eval_pure,
    Holder.view, Holder.update]
  cases operation w.state.store with
  | error cause => simp [settle]
  | ok result => simp [settle, committed]

theorem eval_insertItem (name : String) (price : Binary64) (w : World State) :
    (insertItem name price).eval w = settle w (w.state.store.insert name price) := by
  simp only [insertItem, Action.eval_bind, eval_commit]
  cases w.state.store.insert name price with
  | error cause => simp [settle]
  | ok result => simp [settle]

/-- What a request of the catalog decides from the store alone: the cause of
its failure, or its reply and the store that it leaves. -/
def Request.effect (limit : Nat) (s : Store) :
    (k : Request) → Body k → Except Failure.Cause (Reply k × Store)
  | .create, (r : CreateItem) =>
    if validateCreate limit r = [] then
      (s.insert (Text.trim r.name) r.price).map fun (item, s) => (item.id, s)
    else .error (.validation (validateCreate limit r))
  | .get, (r : GetItem) => .ok (s.get? r.id, s)
  | .rename, (r : RenameItem) =>
    if validateRename limit r = [] then s.rename r.id (Text.trim r.name)
    else .error (.validation (validateRename limit r))
  | .delete, (r : DeleteItem) => (s.remove r.id).map fun (_, s) => ((), s)

theorem eval_unlessCancelled {α : Type} {signal : Signal} {w : World State}
    (h : w.sources.isCancelled signal = false) (act : Action State (Outcome α)) :
    (unlessCancelled signal act).eval w = act.eval w := by
  rw [unlessCancelled, Action.eval_bind_of_value (Action.eval_check h)]

theorem eval_requestChain {signal : Signal} {w : World State}
    (h : w.sources.isCancelled signal = false) (topic : Topic) (limit : Nat)
    (k : Request) (body : Body k) :
    (chain topic (handler k) (.logging k :: validators limit k) body signal).eval w =
      settle w (k.effect limit w.state.store body) := by
  rw [(Interceptor.logging_transparent k).eval_chain]
  cases k with
  | create =>
      simp only [validators, eval_chain_validation h, eval_chain_nil h, Request.effect]
      split
      · simp only [handler, handleCreate, eval_unlessCancelled h, Action.eval_bind,
          eval_insertItem]
        cases w.state.store.insert (Text.trim body.name) body.price with
        | error cause => simp [settle, Except.map]
        | ok result => simp [settle, Except.map]
      · rfl
  | get =>
      simp [validators, eval_chain_nil h, Request.effect, handler, handleGet, settle, state,
        Holder.view]
  | rename =>
      simp only [validators, eval_chain_validation h, eval_chain_nil h, Request.effect]
      split
      · simp only [handler, handleRename, eval_unlessCancelled h, Action.eval_bind,
          renameItem, eval_commit]
        cases w.state.store.rename body.id (Text.trim body.name) with
        | error cause => simp [settle]
        | ok result => simp [settle]
      · rfl
  | delete =>
      simp only [validators, eval_chain_nil h, Request.effect, handler, handleDelete,
        eval_unlessCancelled h, Action.eval_bind, removeItem, eval_commit]
      cases w.state.store.remove body.id with
      | error cause => simp [settle, Except.map]
      | ok result => simp [settle, Except.map]

/-! ## The client -/

section Client

variable {ρ ν : Type} [Requests ρ] [Messages ν] [DecidableEq ρ] [DecidableEq ν]

/-- The mediator over the registry that a configuration wires (`eval_wire`). -/
abbrev wired (config : Config) : Mediator State (Request ⊕ ρ) (Notification ⊕ ν) :=
  mediator config (registry config.maxNameLength.toNat)

def client (config : Config) (signal : Signal) : Client State ρ ν where
  mediator := wired config
  signal

variable (config : Config) {signal : Signal}

/-- A request of the catalog goes through the chain of its type. -/
theorem eval_request_eq_chain (signal : Signal) (w : World State) (k : Request) (body : Body k) :
    ∃ topic, ((client config signal : Client State ρ ν).request k body).eval w =
      (((chain topic (handler k) (.logging k :: validators config.maxNameLength.toNat k)
          body signal).eval w).1.map .ok,
        ((chain topic (handler k) (.logging k :: validators config.maxNameLength.toNat k)
          body signal).eval w).2) :=
  ⟨_, Mediator.eval_send (m := wired (ρ := ρ) (ν := ν) config)
    (registry_handler _ k) (registry_interceptors _ k) body w⟩

/-- What a request is answered with under a signal: cancellation keeps it from
the first link already. -/
def Request.answer (limit : Nat) (cancelled : Bool) (s : Store) (k : Request) (body : Body k) :
    Except Failure.Cause (Reply k × Store) :=
  if cancelled then .error .cancelled else k.effect limit s body

theorem eval_request (signal : Signal) (w : World State) (k : Request) (body : Body k) :
    ((client config signal : Client State ρ ν).request k body).eval w =
      let answer := k.answer config.maxNameLength.toNat (w.sources.isCancelled signal)
        w.state.store body
      ((settle w answer).1.map .ok, (settle w answer).2) := by
  obtain ⟨topic, hchain⟩ := eval_request_eq_chain (ρ := ρ) (ν := ν) config signal w k body
  rw [hchain]
  cases h : w.sources.isCancelled signal with
  | true =>
      rw [eval_chain_cancelled h]
      rfl
  | false =>
      rw [eval_requestChain h]
      rfl

def State.audited (n : Notification) (event : Body n) (s : State) : State :=
  { s with audit := s.audit ++ (auditLine? n event).toList }

def State.indexed (n : Notification) (event : Body n) (s : State) : State :=
  { s with index := indexChange n event s.index }

/-- The state once every listener has heard of a change. -/
def State.announced (n : Notification) (event : Body n) (s : State) : State :=
  (s.audited n event).indexed n event

theorem eval_auditListener (n : Notification) (event : Body n) (signal : Signal)
    (w : World State) :
    (auditListener n event signal).eval w =
      (.value (.ok ()), { w with state := w.state.audited n event }) := by
  simp only [auditListener, State.audited]
  cases auditLine? n event with
  | none => simp
  | some entry => simp [modify, Holder.view, Holder.update]

theorem eval_indexListener (n : Notification) (event : Body n) (signal : Signal)
    (w : World State) :
    (indexListener n event signal).eval w =
      (.value (.ok ()), { w with state := w.state.indexed n event }) := by
  simp [indexListener, modify, Holder.view, Holder.update, State.indexed]

/-- A listener that cannot fail is delivered to through its logging and its
panic boundary as if they were not there. -/
theorem delivers_of_eval {n : Notification} {event : Body n}
    {listener : Handler State (Body n) Unit} (change : State → State)
    (hl : ∀ w, (listener event signal).eval w =
      (.value (.ok ()), { w with state := change w.state })) :
    (wired (ρ := ρ) (ν := ν) config).Delivers (.inl n) event signal listener change := by
  intro index w h
  rw [Mediator.eval_deliver (registry_listenerInterceptors _ n),
    (Interceptor.listenerLogging_transparent n).eval_chain, eval_chain_panicBoundary,
    eval_chain_nil h, hl]

/-- Announcing a change under a signal that is not cancelled reaches every
listener. -/
theorem eval_announce (w : World State) (h : w.sources.isCancelled signal = false)
    (n : Notification) (event : Body n) :
    ((client config signal : Client State ρ ν).announce n event).eval w =
      (.value (), { w with state := w.state.announced n event }) := by
  have hpublish : ((wired (ρ := ρ) (ν := ν) config).publish (.inl n) event signal).eval w =
      (.value (.ok ()), { w with state := w.state.announced n event }) := by
    refine (Mediator.eval_publish (m := wired (ρ := ρ) (ν := ν) config)
      (registry_listeners _ n) event w).trans ?_
    have haudit := delivers_of_eval (ρ := ρ) (ν := ν) config (State.audited n event)
      (eval_auditListener n event signal)
    have hindex := delivers_of_eval (ρ := ρ) (ν := ν) config (State.indexed n event)
      (eval_indexListener n event signal)
    cases n with
    | created => exact Mediator.eval_broadcast (.cons haudit (.cons hindex .nil)) 0 [] w h
    | renamed =>
        -- the audit log does not listen, and would have nothing to add
        refine (Mediator.eval_broadcast (.cons hindex .nil) 0 [] w h).trans ?_
        simp [State.announced, State.audited, auditLine?]
    | deleted => exact Mediator.eval_broadcast (.cons haudit (.cons hindex .nil)) 0 [] w h
  simp only [Client.announce, client, Action.eval_bind] at hpublish ⊢
  rw [hpublish]
  rfl

end Client

end Switchboard.Catalog
