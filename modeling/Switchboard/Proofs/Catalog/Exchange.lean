import Switchboard.Catalog.Client
import Switchboard.Proofs.Catalog.Announcement
import Switchboard.Proofs.Catalog.Wiring
import Switchboard.Proofs.Delivery

/-!
# Exchanging the configuration

What a call of the wired catalog does not see of the configuration. Two actions
that run the same (`Action.RunsAs`) end alike, leave the same world and report
the same, event for event.

- A request is carried out by the same action under all limits that find the
  same wrong with it (`request_congr`).
- The listeners of the catalog cannot fail, so an announcement runs the same
  under both strategies (`announce_congr`). It is no longer the same action: the
  branch that asks for the strategy is there, and never taken.

The writes of the client are put together of these two.
-/

namespace Switchboard

variable {σ α β M R : Type}

/-! ## Actions that run the same -/

namespace Action

/-- Nothing tells the two actions apart: they run the same in every world. -/
def RunsAs (a b : Action σ α) : Prop :=
  ∀ w, a.run w = b.run w

theorem RunsAs.refl (a : Action σ α) : a.RunsAs a := fun _ => rfl

theorem RunsAs.bind {a b : Action σ α} {f g : α → Action σ β} (h : a.RunsAs b)
    (hrest : ∀ x, (f x).RunsAs (g x)) : (a >>= f).RunsAs (b >>= g) := by
  intro w
  rcases hb : b.run w with ⟨exit, w', t⟩
  cases exit with
  | value x => rw [run_bind_of_value ((h w).trans hb), run_bind_of_value hb, hrest x w']
  | panicked p => rw [run_bind_of_panic ((h w).trans hb), run_bind_of_panic hb]

theorem RunsAs.within {a b : Action σ α} (h : a.RunsAs b) (span : Span) :
    (a.within span).RunsAs (b.within span) := by
  intro w
  rw [run_within, run_within, h w]

end Action

open Switchboard.Action (RunsAs)

/-! ## Requests -/

theorem chain_validation_congr {topic : Topic} {handler : Handler σ M R}
    {rest : List (Interceptor σ M R)} {t : Topic} {v v' : Interceptor.Validator M} {message : M}
    (h : v message = v' message) (signal : Signal) :
    chain topic handler (.validation t v :: rest) message signal =
      chain topic handler (.validation t v' :: rest) message signal := by
  simp only [chain, Interceptor.validation, h]

/-- The rest of a chain behind logging. -/
theorem chain_logging_congr {κ : Type} [Requests κ] {k : κ} {topic : Topic}
    {handler : Handler σ (Body k) (Reply k)} {rest rest' : List (Interceptor σ (Body k) (Reply k))}
    {message : Body k} {signal : Signal}
    (h : chain topic handler rest message signal = chain topic handler rest' message signal) :
    chain topic handler (.logging k :: rest) message signal =
      chain topic handler (.logging k :: rest') message signal := by
  simp only [chain, Interceptor.logging, Verdict.forward, bind_assoc, pure_bind, h]

/-- Two mediators that find the same handler carry a request out the same way if its chain
is the same. -/
theorem Mediator.send_congr {ρ ν : Type} [Requests ρ] [Messages ν] (m m' : Mediator σ ρ ν) {k : ρ}
    {handler : RequestHandler σ k} {links links' : List (RequestInterceptor σ k)}
    (hhandler : m.lookup.handler k = pure (.ok handler))
    (hhandler' : m'.lookup.handler k = pure (.ok handler))
    (hlinks : m.lookup.interceptors k = pure links)
    (hlinks' : m'.lookup.interceptors k = pure links')
    (hlength : links.length = links'.length) (hspans : m.config.instrument = m'.config.instrument)
    {request : Body k} {signal : Signal}
    (hchain : chain (.request k) handler links request signal =
      chain (.request k) handler links' request signal) :
    m.send k request signal = m'.send k request signal := by
  simp only [send, hhandler, hhandler', hlinks, hlinks', pure_bind, instrumented, hlength, hspans,
    hchain]

theorem Mediator.deliver_congr {ρ ν : Type} [Requests ρ] [Messages ν] (m m' : Mediator σ ρ ν)
    {n : ν} {links : List (ListenerInterceptor σ n)}
    (hlinks : m.lookup.listenerInterceptors n = pure links)
    (hlinks' : m'.lookup.listenerInterceptors n = pure links)
    (hspans : m.config.instrument = m'.config.instrument) {event : Body n} {signal : Signal}
    {index : Nat} {listener : Listener σ n} :
    m.deliver n event signal index listener = m'.deliver n event signal index listener := by
  simp only [deliver, hlinks, hlinks', pure_bind, instrumented, hspans]

theorem Mediator.broadcast_congr {ρ ν : Type} [Requests ρ] [Messages ν] {m m' : Mediator σ ρ ν}
    {n : ν} {event : Body n} {signal : Signal} {listeners : List (Listener σ n)}
    (hsame : ∀ index listener,
      m.deliver n event signal index listener = m'.deliver n event signal index listener)
    (hdelivers : ∀ listener ∈ listeners, ∃ change, m.Delivers n event signal listener change)
    (index : Nat) (failures : List HandlerFailure) {w : World σ}
    (hopen : w.sources.isCancelled signal = false) :
    (m.broadcast n event signal index failures listeners).run w =
      (m'.broadcast n event signal index failures listeners).run w := by
  induction listeners generalizing index w with
  | nil => rfl
  | cons listener rest ih =>
      obtain ⟨⟨change, hchange⟩, hrest⟩ := List.forall_mem_cons.mp hdelivers
      obtain ⟨t, hrun⟩ := Action.eval_eq_iff.mp (hchange index w hopen)
      rw [run_broadcast_ok hopen hrun, run_broadcast_ok hopen (hsame index listener ▸ hrun)]
      exact congrArg (Run.after t) (ih hrest (index + 1) hopen)

theorem Mediator.publish_congr {ρ ν : Type} [Requests ρ] [Messages ν] {m m' : Mediator σ ρ ν}
    {n : ν} {event : Body n} {listeners : List (Listener σ n)}
    (hlisteners : m.lookup.listeners n = pure listeners)
    (hlisteners' : m'.lookup.listeners n = pure listeners)
    (hsame : ∀ index listener,
      m.deliver n event .never index listener = m'.deliver n event .never index listener)
    (hdelivers : ∀ listener ∈ listeners, ∃ change, m.Delivers n event .never listener change) :
    (m.publish n event .never).RunsAs (m'.publish n event .never) := by
  simp only [publish, hlisteners, hlisteners', pure_bind]
  split
  · exact .refl _
  · exact RunsAs.bind (.refl _) fun _ _ => broadcast_congr hsame hdelivers 0 [] rfl

namespace Catalog

section

variable {ρ ν : Type} [Requests ρ] [Messages ν] [DecidableEq ρ] [DecidableEq ν]

/-- What the validators of a request type say of a request. -/
def Request.errors (limit : Nat) : (k : Request) → Body k → List FieldError
  | .create, (r : CreateItem) => validateCreate limit r
  | .get, _ => []
  | .rename, (r : RenameItem) => validateRename limit r
  | .delete, _ => []

theorem chain_request_congr {limit limit' : Nat} {k : Request} {body : Body k}
    (h : k.errors limit body = k.errors limit' body) (topic : Topic) (signal : Signal) :
    chain (σ := State) topic (handler k) (.logging k :: validators limit k) body signal =
      chain topic (handler k) (.logging k :: validators limit' k) body signal := by
  refine chain_logging_congr ?_
  cases k with
  | create => exact chain_validation_congr h signal
  | get => rfl
  | rename => exact chain_validation_congr h signal
  | delete => rfl

theorem length_validators (limit limit' : Nat) (k : Request) :
    (validators (σ := State) limit k).length = (validators (σ := State) limit' k).length := by
  cases k <;> simp only [validators, List.length_cons, List.length_nil]

theorem wired_instrument (config : Config) :
    (wired (ρ := ρ) (ν := ν) config).config.instrument = true := rfl

/-- A request is carried out the same under all limits under which the same is wrong with it. -/
theorem request_congr {config config' : Config} {k : Request} {body : Body k} (signal : Signal)
    (h : k.errors config.maxNameLength.toNat body = k.errors config'.maxNameLength.toNat body) :
    (client config signal : Client State ρ ν).request k body =
      (client config' signal : Client State ρ ν).request k body :=
  Mediator.send_congr (wired (ρ := ρ) (ν := ν) config) (wired (ρ := ρ) (ν := ν) config')
    (registry_handler _ k) (registry_handler _ k) (registry_interceptors _ k)
    (registry_interceptors _ k) (congrArg Nat.succ (length_validators _ _ k))
    ((wired_instrument config).trans (wired_instrument config').symm)
    (chain_request_congr h _ signal)

/-! ## Announcements -/

theorem deliver_congr (config config' : Config) (n : Notification) (event : Body n)
    (signal : Signal) (index : Nat) (listener : Handler State (Body n) Unit) :
    (wired (ρ := ρ) (ν := ν) config).deliver (.inl n) event signal index listener =
      (wired (ρ := ρ) (ν := ν) config').deliver (.inl n) event signal index listener :=
  Mediator.deliver_congr (wired (ρ := ρ) (ν := ν) config) (wired (ρ := ρ) (ν := ν) config')
    (registry_listenerInterceptors _ n) (registry_listenerInterceptors _ n)
    ((wired_instrument config).trans (wired_instrument config').symm)

/-- The listeners of the catalog cannot fail. -/
theorem listeners_deliver (config : Config) (signal : Signal) (n : Notification) (event : Body n) :
    ∀ listener ∈ listeners n, ∃ change,
      (wired (ρ := ρ) (ν := ν) config).Delivers (.inl n) event signal listener change := by
  have haudit := delivers_of_eval (ρ := ρ) (ν := ν) config (State.audited n event)
    (eval_auditListener n event signal)
  have hindex := delivers_of_eval (ρ := ρ) (ν := ν) config (State.indexed n event)
    (eval_indexListener n event signal)
  cases n with
  | created => exact List.forall_mem_cons.mpr ⟨⟨_, haudit⟩, List.forall_mem_singleton.mpr ⟨_, hindex⟩⟩
  | renamed => exact List.forall_mem_singleton.mpr ⟨_, hindex⟩
  | deleted => exact List.forall_mem_cons.mpr ⟨⟨_, haudit⟩, List.forall_mem_singleton.mpr ⟨_, hindex⟩⟩

/-- Announcing a change to listeners that cannot fail runs the same under every configuration,
the strategy included. -/
theorem announce_congr (config config' : Config) (n : Notification) (event : Body n) :
    ((client config .never : Client State ρ ν).announce n event).RunsAs
      ((client config' .never : Client State ρ ν).announce n event) := by
  have hpublish : ((wired (ρ := ρ) (ν := ν) config).publish (.inl n) event .never).RunsAs
      ((wired (ρ := ρ) (ν := ν) config').publish (.inl n) event .never) :=
    Mediator.publish_congr (registry_listeners _ n) (registry_listeners _ n)
      (deliver_congr config config' n event .never) fun listener hl =>
        listeners_deliver config .never n event listener hl
  unfold Client.announce
  exact hpublish.bind fun _ => .refl _

/-! ## Calls -/

theorem conclude_congr (config config' : Config) (op : Operation)
    (refuse : Failure → Action State Unit)
    (answer : Except DispatchError (Outcome (Reply op.request))) :
    ((client config .never : Client State ρ ν).conclude op refuse answer).RunsAs
      ((client config' .never : Client State ρ ν).conclude op refuse answer) := by
  rcases answer with e | f | reply
  · simp only [Client.conclude]
    exact .refl _
  · simp only [Client.conclude]
    exact .refl _
  · simp only [Client.conclude]
    exact (announce_congr config config' op.notification (op.event reply)).bind fun _ => .refl _

theorem write_congr {config config' : Config} {op : Operation}
    (refuse : Failure → Action State Unit)
    (h : op.request.errors config.maxNameLength.toNat op.body =
      op.request.errors config'.maxNameLength.toNat op.body) :
    ((client config .never : Client State ρ ν).write op refuse).RunsAs
      ((client config' .never : Client State ρ ν).write op refuse) := by
  have hrequest := request_congr (ρ := ρ) (ν := ν) .never h
  refine RunsAs.within (RunsAs.bind (.refl _) fun _ => ?_) op.span
  rw [hrequest]
  exact RunsAs.bind (.refl _) (conclude_congr config config' op refuse)

/-- Limits that leave room for a name find the same wrong with it. -/
theorem nameErrors_congr {limit limit' : Nat} {name : String}
    (h : Text.count (Text.trim name) ≤ limit) (h' : Text.count (Text.trim name) ≤ limit') :
    nameErrors limit name = nameErrors limit' name := by
  simp only [nameErrors, if_neg (Nat.not_lt.mpr h), if_neg (Nat.not_lt.mpr h')]

variable {config config' : Config} {name : String}

theorem create_congr (h : Text.count (Text.trim name) ≤ config.maxNameLength.toNat)
    (h' : Text.count (Text.trim name) ≤ config'.maxNameLength.toNat) (price : Binary64) :
    ((client config .never : Client State ρ ν).create name price).RunsAs
      ((client config' .never : Client State ρ ν).create name price) := by
  rw [Client.create_eq_write, Client.create_eq_write]
  refine write_congr _ ?_
  show validateCreate _ ⟨name, price⟩ = validateCreate _ ⟨name, price⟩
  simp only [validateCreate, nameErrors_congr h h']

theorem rename_congr (h : Text.count (Text.trim name) ≤ config.maxNameLength.toNat)
    (h' : Text.count (Text.trim name) ≤ config'.maxNameLength.toNat) (id : ItemId) :
    ((client config .never : Client State ρ ν).rename id name).RunsAs
      ((client config' .never : Client State ρ ν).rename id name) := by
  rw [Client.rename_eq_write, Client.rename_eq_write]
  refine write_congr _ ?_
  show validateRename _ ⟨id, name⟩ = validateRename _ ⟨id, name⟩
  simp only [validateRename, nameErrors_congr h h']

theorem delete_congr (id : ItemId) :
    ((client config .never : Client State ρ ν).delete id).RunsAs
      ((client config' .never : Client State ρ ν).delete id) := by
  rw [Client.delete_eq_write, Client.delete_eq_write]
  exact write_congr _ rfl

theorem describe_congr (id : ItemId) :
    ((client config .never : Client State ρ ν).describe id).RunsAs
      ((client config' .never : Client State ρ ν).describe id) := by
  have hrequest : (client config .never : Client State ρ ν).request .get ⟨id⟩ =
      (client config' .never : Client State ρ ν).request .get ⟨id⟩ := request_congr .never rfl
  simp only [Client.describe, hrequest]
  exact .refl _

end

end Catalog

end Switchboard
