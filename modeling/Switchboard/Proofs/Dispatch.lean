import Mathlib.Data.List.Forall2
import Switchboard.Interceptor.Logging
import Switchboard.Interceptor.PanicBoundary
import Switchboard.Interceptor.Validation
import Switchboard.Mediator
import Switchboard.Proofs.Evaluation

/-!
# What dispatching evaluates to

The way of a message through a chain and through the mediator, evaluated link
by link:

- a chain whose signal is cancelled answers `cancelled`, whatever its links
  are (`eval_chain_cancelled`);
- logging changes nothing (`Interceptor.Transparent`), a panic boundary
  changes nothing unless something panics, and validation lets valid messages
  through (`eval_chain_validation`);
- `send` hands back what the chain ended with, and a broadcast to listeners
  that cannot fail makes the changes of all of them in turn (`eval_publish`).
-/

namespace Switchboard

variable {σ M R : Type}

/-! ## Boundaries -/

theorem eval_boundary_open {topic : Topic} {signal : Signal} {w : World σ}
    (h : w.sources.isCancelled signal = false) (link : Action σ (Outcome R)) :
    (boundary topic signal link).eval w = link.eval w := by
  simp [boundary, h]

theorem eval_boundary_cancelled {topic : Topic} {signal : Signal} {w : World σ}
    (h : w.sources.isCancelled signal = true) (link : Action σ (Outcome R)) :
    (boundary topic signal link).eval w = (.value (.error (w.fresh .cancelled)), w.marked) := by
  simp [boundary, h]

/-- Once the signal is cancelled not even the first link is entered. -/
theorem eval_chain_cancelled {signal : Signal} {w : World σ}
    (h : w.sources.isCancelled signal = true) (topic : Topic) (handler : Handler σ M R)
    (links : List (Interceptor σ M R)) (message : M) :
    (chain topic handler links message signal).eval w =
      (.value (.error (w.fresh .cancelled)), w.marked) := by
  cases links with
  | nil => exact eval_boundary_cancelled h _
  | cons link rest => exact eval_boundary_cancelled h _

theorem eval_chain_nil {signal : Signal} {w : World σ}
    (h : w.sources.isCancelled signal = false) (topic : Topic) (handler : Handler σ M R)
    (message : M) :
    (chain topic handler [] message signal).eval w = (handler message signal).eval w :=
  eval_boundary_open h _

/-! ## Interceptors -/

namespace Interceptor

/-- Lets every message through as it is and hands every outcome on as it is,
without a trace in the world. -/
def Transparent (link : Interceptor σ M R) : Prop :=
  ∀ message signal handlerNext, ∃ finish : Outcome R → Action σ (Outcome R),
    (∀ w, (link.enter message signal handlerNext).eval w =
      (.value (.forward message signal finish), w)) ∧
    ∀ o w, (finish o).eval w = (.value o, w)

theorem logging_transparent {κ : Type} [Requests κ] (k : κ) :
    (logging k : Interceptor σ (Body k) (Reply k)).Transparent := by
  intro message signal handlerNext
  refine ⟨_, fun w => rfl, ?_⟩
  intro o w
  cases o <;> simp

theorem listenerLogging_transparent {κ : Type} [Messages κ] (k : κ) :
    (listenerLogging k : Interceptor σ (Body k) Unit).Transparent := by
  intro message signal handlerNext
  refine ⟨_, fun w => rfl, ?_⟩
  intro o w
  cases o <;> simp

end Interceptor

/-- A transparent link can be left out. -/
theorem Interceptor.Transparent.eval_chain {link : Interceptor σ M R} (hlink : link.Transparent)
    (topic : Topic) (handler : Handler σ M R) (rest : List (Interceptor σ M R))
    (message : M) (signal : Signal) (w : World σ) :
    (chain topic handler (link :: rest) message signal).eval w =
      (chain topic handler rest message signal).eval w := by
  cases hsig : w.sources.isCancelled signal with
  | true => rw [eval_chain_cancelled hsig, eval_chain_cancelled hsig]
  | false =>
      obtain ⟨finish, henter, hfinish⟩ := hlink message signal rest.isEmpty
      rw [chain, eval_boundary_open hsig, Action.eval_bind_of_value (henter w)]
      simp only [Verdict.forward, Action.eval_bind, Action.eval_attempt]
      obtain ⟨exit, w'⟩ := (chain topic handler rest message signal).eval w
      cases exit with
      | value o => exact hfinish o w'
      | panicked p => rfl

/-- Any number of transparent links can be left out. -/
theorem eval_chain_append {outer : List (Interceptor σ M R)} (houter : ∀ l ∈ outer, l.Transparent)
    (topic : Topic) (handler : Handler σ M R) (links : List (Interceptor σ M R))
    (message : M) (signal : Signal) (w : World σ) :
    (chain topic handler (outer ++ links) message signal).eval w =
      (chain topic handler links message signal).eval w := by
  induction outer with
  | nil => rfl
  | cons l outer ih =>
      have hl : l.Transparent := houter l List.mem_cons_self
      rw [List.cons_append, hl.eval_chain]
      exact ih fun l' hl' => houter l' (List.mem_cons_of_mem l hl')

theorem eval_chain_panicBoundary (topic topic' : Topic) (handler : Handler σ M R)
    (rest : List (Interceptor σ M R)) (message : M) (signal : Signal) (w : World σ) :
    (chain topic handler (.panicBoundary topic' :: rest) message signal).eval w =
      match (chain topic handler rest message signal).eval w with
      | (.value o, w') => (.value o, w')
      | (.panicked p, w') =>
        (.value (.error (w'.fresh (.unexpected (Interceptor.panicMessage p)))), w'.marked) := by
  cases hsig : w.sources.isCancelled signal with
  | true => rw [eval_chain_cancelled hsig, eval_chain_cancelled hsig]
  | false =>
      rw [chain, eval_boundary_open hsig]
      simp only [Interceptor.panicBoundary, Action.eval_bind, Action.eval_pure,
        Action.eval_attempt]
      obtain ⟨exit, w'⟩ := (chain topic handler rest message signal).eval w
      cases exit with
      | value o => rfl
      | panicked p => simp

/-- Validation answers an invalid message itself, and is not there for a
valid one. -/
theorem eval_chain_validation {signal : Signal} {w : World σ}
    (h : w.sources.isCancelled signal = false) (topic topic' : Topic) (handler : Handler σ M R)
    (validate : Interceptor.Validator M) (rest : List (Interceptor σ M R)) (message : M) :
    (chain topic handler (.validation topic' validate :: rest) message signal).eval w =
      if validate message = [] then (chain topic handler rest message signal).eval w
      else (.value (.error (w.fresh (.validation (validate message)))), w.marked) := by
  rw [chain, eval_boundary_open h]
  simp only [Interceptor.validation]
  cases hv : validate message with
  | nil =>
      simp only [Verdict.forward, Action.eval_bind, Action.eval_pure, Action.eval_attempt]
      obtain ⟨exit, w'⟩ := (chain topic handler rest message signal).eval w
      cases exit <;> rfl
  | cons e es => simp

/-! ## Sending and publishing -/

namespace Mediator

variable {ρ ν : Type} [Requests ρ] [Messages ν] {m : Mediator σ ρ ν} {signal : Signal}

@[simp] theorem eval_instrumented {α : Type} (m : Mediator σ ρ ν) (span : Span)
    (a : Action σ α) (w : World σ) : (m.instrumented span a).eval w = a.eval w := by
  unfold instrumented
  split
  · exact Action.eval_within span a w
  · rfl

theorem eval_send {k : ρ} {handler : RequestHandler σ k} {links : List (RequestInterceptor σ k)}
    (hhandler : m.lookup.handler k = pure (.ok handler))
    (hlinks : m.lookup.interceptors k = pure links) (request : Body k) (w : World σ) :
    (m.send k request signal).eval w =
      (((chain (.request k) handler links request signal).eval w).1.map .ok,
        ((chain (.request k) handler links request signal).eval w).2) := by
  simp only [send, hhandler, hlinks, Action.eval_bind, Action.eval_pure, Action.eval_log,
    eval_instrumented]
  obtain ⟨exit, w'⟩ := (chain (.request k) handler links request signal).eval w
  cases exit <;> simp

theorem eval_deliver {n : ν} {links : List (ListenerInterceptor σ n)}
    (hlinks : m.lookup.listenerInterceptors n = pure links) (event : Body n) (index : Nat)
    (listener : Listener σ n) (w : World σ) :
    (m.deliver n event signal index listener).eval w =
      (chain (.notification n) listener links event signal).eval w := by
  simp [deliver, hlinks]

@[simp] theorem broadcastResult_nil (n : ν) : broadcastResult n [] = .ok () := rfl

/-- Publishing is broadcasting to the listeners that are looked up, also where
there are none. -/
theorem eval_publish {n : ν} {listeners : List (Listener σ n)}
    (hlisteners : m.lookup.listeners n = pure listeners) (event : Body n) (w : World σ) :
    (m.publish n event signal).eval w =
      (m.broadcast n event signal 0 [] listeners).eval w := by
  cases listeners <;> simp [publish, hlisteners, broadcast]

/-- While the signal is not cancelled, the delivery succeeds and changes the
state, whatever the number of the listener. -/
def Delivers (m : Mediator σ ρ ν) (n : ν) (event : Body n) (signal : Signal)
    (listener : Listener σ n) (change : σ → σ) : Prop :=
  ∀ index w, w.sources.isCancelled signal = false →
    (m.deliver n event signal index listener).eval w =
      (.value (.ok ()), { w with state := change w.state })

/-- A broadcast to listeners that cannot fail makes all their changes, one
after the other. -/
theorem eval_broadcast {n : ν} {event : Body n} {listeners : List (Listener σ n)}
    {changes : List (σ → σ)}
    (hdeliver : List.Forall₂ (m.Delivers n event signal) listeners changes)
    (index : Nat) (failures : List HandlerFailure) (w : World σ)
    (hsig : w.sources.isCancelled signal = false) :
    (m.broadcast n event signal index failures listeners).eval w =
      (.value (broadcastResult n failures),
        { w with state := changes.foldl (fun s change => change s) w.state }) := by
  induction hdeliver generalizing index w with
  | nil => rfl
  | cons hfirst _ ih =>
      simp only [broadcast, Action.eval_bind, Action.eval_isCancelled, hsig,
        Bool.false_eq_true, if_false, hfirst index w hsig]
      exact ih (index + 1) _ hsig

end Mediator

end Switchboard
