import Mathlib.Data.List.Forall2
import Switchboard.Catalog.Message
import Switchboard.Interceptor.Double
import Switchboard.Proofs.Delivery
import Switchboard.Proofs.Dispatch

/-!
# Broadcasts

What publishing a notification does with the listeners of a registry:

- `broadcast_uncancelled`: who is delivered to, in which order, and what is
  answered and reported, as long as the signal is not cancelled;
- `cancelled_broadcast_answer`: what is answered if cancellation keeps a
  listener from being entered, in front of its chain or inside of it.
-/

namespace Switchboard

variable {σ ρ ν : Type} [Requests ρ] [Messages ν]

/-! ## Publishing -/

namespace Mediator

variable {m : Mediator σ ρ ν} {n : ν} {event : Body n} {signal : Signal}

/-- The event with which a broadcast begins. -/
def opened (n : ν) : (count : Nat) → Report
  | 0 => .event {
      level := .debug
      message := "No handlers registered, nothing to publish"
      fields := [(Topic.notification n).field] }
  | count => .event {
      level := .debug
      message := "Publishing notification"
      fields := [(Topic.notification n).field, ("handlers", Decimal.format count)] }

theorem run_publish {listeners : List (Listener σ n)} {w w₀ : World σ} {t₀ : Trace}
    (hlisteners : (m.lookup.listeners n).run w = ⟨.value listeners, w₀, t₀⟩) :
    (m.publish n event signal).run w =
      ((m.broadcast n event signal 0 [] listeners).run w₀).after
        (t₀ ++ [opened n listeners.length]) := by
  rw [publish, Action.run_bind_of_value hlisteners]
  cases listeners with
  | nil =>
      simp only [List.isEmpty_nil, if_true, Action.run_log_bind, Run.after_after]
      rfl
  | cons listener rest => simp [opened]

theorem publish_eq_value {w w' : World σ} {result : Except DispatchError Unit} {t : Trace}
    (h : (m.publish n event signal).run w = ⟨.value result, w', t⟩) :
    ∃ listeners w₀ t₀ t', (m.lookup.listeners n).run w = ⟨.value listeners, w₀, t₀⟩ ∧
      (m.broadcast n event signal 0 [] listeners).run w₀ = ⟨.value result, w', t'⟩ ∧
      t = t₀ ++ [opened n listeners.length] ++ t' := by
  obtain ⟨listeners, w₀, t₀, _, hlisteners, -, -⟩ := Action.run_bind_eq_value.mp h
  rw [run_publish hlisteners] at h
  obtain ⟨t', hbroadcast, ht⟩ := Run.after_eq.mp h
  exact ⟨listeners, w₀, t₀, t', hlisteners, hbroadcast, ht⟩

end Mediator

/-! ## The listeners of a registry -/

/-- The component is one that the registration can be resolved to. -/
def Registration.Yields {α : Type} (r : Registration σ α) (component : α) : Prop :=
  ∃ w w' t, r.resolve.run w = ⟨.value component, w', t⟩

/-- Resolving yields one component for each registration, in their order. -/
theorem resolveAll_yields {α : Type} {rs : List (Registration σ α)} {components : List α}
    {w w' : World σ} {t : Trace}
    (h : (resolveAll rs).run w = ⟨.value components, w', t⟩) :
    List.Forall₂ Registration.Yields rs components := by
  induction rs generalizing components w t with
  | nil =>
      cases h
      exact .nil
  | cons r rs ih =>
      obtain ⟨first, w₁, t₁, _, hfirst, h, -⟩ := Action.run_bind_eq_value.mp h
      obtain ⟨rest, w₂, t₂, _, hrest, h, -⟩ := Action.run_bind_eq_value.mp h
      cases h
      exact .cons ⟨w, w₁, t₁, hfirst⟩ (ih hrest)

namespace Mediator

/-! ## Without cancellation -/

/-- The answer of a broadcast to `count` listeners that made the deliveries
`ds`. If a failure stops it, the listener that failed is the last one that was
delivered to, and no listener before it has failed. -/
def Answered (n : ν) (count : Nat) (ds : List (Delivery σ)) (result : Except DispatchError Unit) :
    PublishStrategy → Prop
  | .continueOnError =>
    ds.length = count ∧ result =
      if failures ds = [] then .ok ()
      else .error (.notificationsFailed (Messages.name n) (failures ds))
  | .stopOnFirstError =>
    (failures ds = [] ∧ ds.length = count ∧ result = .ok ()) ∨
      ∃ failed, ds.length = failed.index + 1 ∧ failures ds = [failed] ∧
        result = .error (.notificationFailed (Messages.name n) failed)

theorem Concluded.answered {m : Mediator σ ρ ν} {n : ν} {signal : Signal}
    {ds : List (Delivery σ)} {rest : List (Listener σ n)} {w : World σ}
    {result : Except DispatchError Unit} {t : Trace}
    (h : m.Concluded n signal 0 [] ds rest w result t)
    (hopen : w.sources.isCancelled signal = false) :
    Answered n (ds.length + rest.length) ds result m.config.strategy ∧ t = [] := by
  cases h with
  | completed hok =>
      refine ⟨?_, rfl⟩
      cases hstrategy : m.config.strategy with
      | stopOnFirstError =>
          have hnone : failures ds = [] := hok hstrategy
          exact Or.inl ⟨hnone, rfl, by rw [hnone]; rfl⟩
      | continueOnError =>
          refine ⟨rfl, ?_⟩
          rw [List.nil_append, broadcastResult]
          simp only [List.isEmpty_iff]
  | stopped hstrategy hlast hfailed =>
      rw [hstrategy]
      exact ⟨Or.inr ⟨_, hlast, hfailed, rfl⟩, rfl⟩
  | cancelled hcancelled => cases hopen.symm.trans hcancelled

/-- A broadcast to the listeners of a registry, under a signal that is not
cancelled as long as it runs. There is one listener for each registration, in
their order; their chains are run strictly one after the other, all of them or
those up to the first failure, as the strategy says; and the failures in the
answer are those of the chains that failed, the very same ones, by ascending
number. Between the events of the chains the broadcast reports the number of
listeners in the beginning and each failure as it occurs. -/
theorem broadcast_uncancelled {m : Mediator σ ρ ν} {r : Registry σ ρ ν}
    (hlookup : m.lookup = r.lookup) {n : ν} {event : Body n} {signal : Signal}
    {w w' : World σ} {result : Except DispatchError Unit} {t : Trace}
    (hrun : (m.publish n event signal).run w = ⟨.value result, w', t⟩)
    (hopen : w'.sources.isCancelled signal = false) :
    ∃ listeners w₀ t₀ ds, (m.lookup.listeners n).run w = ⟨.value listeners, w₀, t₀⟩ ∧
      List.Forall₂ Registration.Yields (r.listeners n) listeners ∧
      m.Delivered n event signal 0 (listeners.take ds.length) w₀ ds w' ∧
      Answered n listeners.length ds result m.config.strategy ∧
      ((failures ds).Pairwise fun a b => a.index < b.index) ∧
      (∀ i f, ⟨i, f⟩ ∈ failures ds ↔ ∃ d, ds[i]? = some d ∧ d.outcome = .error f) ∧
      t = t₀ ++ [opened n listeners.length] ++ ds.flatMap (Delivery.reports n) := by
  obtain ⟨listeners, w₀, t₀, t₁, hlisteners, hbroadcast, rfl⟩ := publish_eq_value hrun
  obtain ⟨ran, rest, ds, t₂, rfl, hds, hended, rfl⟩ := broadcast_cases hbroadcast
  obtain ⟨hanswered, rfl⟩ := hended.answered hopen
  have hregistered : List.Forall₂ Registration.Yields (r.listeners n) (ran ++ rest) := by
    rw [hlookup] at hlisteners
    exact resolveAll_yields hlisteners
  rw [hds.length_eq, ← List.length_append] at hanswered
  refine ⟨ran ++ rest, w₀, t₀, ds, hlisteners, hregistered, ?_, hanswered,
    hds.failures_ascending, fun i f => hds.mem_failures, by rw [List.append_nil]⟩
  rw [hds.length_eq, List.take_left]
  exact hds

theorem two_of_three_failures_reported :
    let r : Registry Unit Empty Catalog.Notification := .ofList [
      .listener .deleted (.singleton (.failing "first" ⟨100, .conflict "busy"⟩)),
      .listener .deleted (.singleton (.recording "second" ())),
      .listener .deleted (.factory (return .failing "third" ⟨100, .conflict "busy"⟩))]
    let m : Mediator Unit Empty Catalog.Notification :=
      ⟨r.lookup, { strategy := .continueOnError }⟩
    let run := (m.publish .deleted (⟨⟨7⟩⟩ : Catalog.ItemDeleted) .never).run { state := () }
    run.world.sources.isCancelled .never = false ∧
      run.trace.journal = ["first", "second", "third"] ∧
      ∃ ds : List (Delivery Unit), ds.length = 3 ∧
        failures ds = [⟨0, 100, .conflict "busy"⟩, ⟨2, 100, .conflict "busy"⟩] ∧
        run.exit = .value (.error (.notificationsFailed "ItemDeleted" (failures ds))) := by
  intro r m run
  have hrun : (m.publish .deleted (⟨⟨7⟩⟩ : Catalog.ItemDeleted) .never).run { state := () } =
      ⟨.value (.error (.notificationsFailed "ItemDeleted"
        [⟨0, 100, .conflict "busy"⟩, ⟨2, 100, .conflict "busy"⟩])), run.world, run.trace⟩ := rfl
  obtain ⟨listeners, w₀, t₀, ds, hlisteners, hyields, -, hanswered, -⟩ :=
    broadcast_uncancelled (r := r) rfl hrun rfl
  obtain ⟨hlength, hresult⟩ := hanswered
  have hfailures :
      failures ds = [⟨0, 100, .conflict "busy"⟩, ⟨2, 100, .conflict "busy"⟩] := by
    split at hresult
    · cases hresult
    · injection hresult with hresult
      injection hresult with _ hfailures
      exact hfailures.symm
  refine ⟨rfl, rfl, ds, ?_, hfailures, ?_⟩
  · rw [hlength, ← hyields.length_eq]
    rfl
  · rw [hfailures]
    rfl

/-! ## With cancellation -/

/-- The delivery is started under a signal that is not cancelled, and still its
listener is not entered, whichever it is: a boundary in its chain finds the
signal cancelled, and the chain hands on the failure that the boundary makes. -/
structure Shut (m : Mediator σ ρ ν) (n : ν) (event : Body n) (signal : Signal) (index : Nat)
    (w : World σ) (f : Failure) (w' : World σ) : Prop where
  started : w.sources.isCancelled signal = false
  ended : ∀ listener, (m.deliver n event signal index listener).eval w = (.value (.error f), w')
  cancelled : w'.sources.isCancelled signal = true
  cause : f.cause = .cancelled

/-- A delivery is shut by an interceptor that cancels the signal on the way in,
if what stands around it changes nothing. -/
theorem shut_of_cancelling {m : Mediator σ ρ ν} {n : ν} {event passed : Body n} {signal : Signal}
    {outer inner : List (ListenerInterceptor σ n)} {link : ListenerInterceptor σ n}
    (hlinks : m.lookup.listenerInterceptors n = pure (outer ++ link :: inner))
    (houter : ∀ l ∈ outer, l.Transparent) {w w' : World σ}
    {finish : Outcome Unit → Action σ (Outcome Unit)}
    (henter : (link.enter event signal inner.isEmpty).eval w =
      (.value (.forward passed signal finish), w'))
    (hfinish : ∀ o w, (finish o).eval w = (.value o, w))
    (hstarted : w.sources.isCancelled signal = false)
    (hcancelled : w'.sources.isCancelled signal = true) (index : Nat) :
    m.Shut n event signal index w (w'.fresh .cancelled) w'.marked where
  started := hstarted
  ended := by
    intro listener
    rw [eval_deliver hlinks, eval_chain_append houter, chain, eval_boundary_open hstarted,
      Action.eval_bind_of_value henter]
    simp only [Verdict.forward, Action.eval_bind, Action.eval_attempt,
      eval_chain_cancelled hcancelled, hfinish]
  cancelled := hcancelled
  cause := rfl

/-- Cancels a source and lets the notification through. -/
def cancelling {M : Type} (source : SourceId) : Interceptor σ M Unit where
  name := "CancellingBehavior"
  enter message signal _ := .cancel source (return .forward message signal pure)

/-- Two ways in which cancellation keeps listener number `ran.length` from
being entered, after the deliveries `ds` to the listeners before it. If the
signal is cancelled when its chain would be started, the broadcast was
cancelled there. If it is cancelled later, inside the chain, the listener
counts as one that failed, and only the next listener sees the cancellation. -/
theorem cancelled_broadcast_answer {m : Mediator σ ρ ν} {n : ν} {event : Body n}
    {signal : Signal} {ran rest : List (Listener σ n)} {listener : Listener σ n}
    {ds : List (Delivery σ)} {w w₀ w₁ : World σ} {t₀ : Trace}
    (hlisteners : (m.lookup.listeners n).run w = ⟨.value (ran ++ listener :: rest), w₀, t₀⟩)
    (hds : m.Delivered n event signal 0 ran w₀ ds w₁)
    (hok : m.config.strategy = .stopOnFirstError → failures ds = []) :
    (w₁.sources.isCancelled signal = true →
      ((m.publish n event signal).run w).exit =
        .value (.error (.publishCancelled (Messages.name n) ran.length))) ∧
    ∀ f w₂, m.Shut n event signal ran.length w₁ f w₂ →
      ((m.publish n event signal).run w).exit = .value (.error
        (match m.config.strategy, rest with
        | .stopOnFirstError, _ => .notificationFailed (Messages.name n) ⟨ran.length, f⟩
        | .continueOnError, [] =>
          .notificationsFailed (Messages.name n) (failures ds ++ [⟨ran.length, f⟩])
        | .continueOnError, _ :: _ =>
          .publishCancelled (Messages.name n) (ran.length + 1))) := by
  rw [run_publish hlisteners, run_broadcast_delivered hds hok, Nat.add_zero, List.nil_append]
  constructor
  · intro hcancelled
    rw [run_broadcast_cancelled hcancelled]
    rfl
  · intro f w₂ hshut
    obtain ⟨t, hrun⟩ := Action.eval_eq_iff.mp (hshut.ended listener)
    rw [run_broadcast_error hshut.started hrun]
    cases m.config.strategy with
    | stopOnFirstError => rfl
    | continueOnError =>
        cases rest with
        | nil =>
            simp only [broadcast, broadcastResult_append]
            rfl
        | cons next rest =>
            simp only [run_broadcast_cancelled hshut.cancelled]
            rfl

theorem shut_listeners_answer :
    let r : Registry Unit Empty Catalog.Notification := .ofList [
      .listener .deleted (.singleton (.recording "first" ())),
      .listener .deleted (.singleton (.recording "second" ())),
      .listenerInterceptor .deleted (.singleton (.listenerLogging Catalog.Notification.deleted)),
      .listenerInterceptor .deleted (.singleton (cancelling 0))]
    let m : Mediator Unit Empty Catalog.Notification :=
      ⟨r.lookup, { strategy := .continueOnError }⟩
    let event : Catalog.ItemDeleted := ⟨⟨7⟩⟩
    let w : World Unit := { state := (), sources := [{}] }
    ∃ f w', m.Shut Catalog.Notification.deleted event (.source 0) 0 w f w' ∧
      ((m.publish .deleted event (.source 0)).run w).trace.journal = [] ∧
      ((m.publish .deleted event (.source 0)).run w).exit =
        .value (.error (.publishCancelled "ItemDeleted" 1)) := by
  intro r m event w
  have houter : ∀ l ∈ [Interceptor.listenerLogging (σ := Unit) Catalog.Notification.deleted],
      l.Transparent := by
    intro l hl
    obtain rfl := List.mem_singleton.mp hl
    exact Interceptor.listenerLogging_transparent _
  have hlinks : m.lookup.listenerInterceptors .deleted =
      pure ([.listenerLogging Catalog.Notification.deleted] ++ [cancelling 0]) := rfl
  have henter : ((cancelling 0).enter event (.source 0) true).eval w =
      (.value (.forward event (.source 0) pure),
        { w with sources := [{ cancelled := true, changes := 1 }] }) := rfl
  have hshut := shut_of_cancelling hlinks houter henter (fun _ _ => rfl) rfl rfl 0
  have hanswer := (cancelled_broadcast_answer (m := m) (n := .deleted) rfl (.none 0 w)
    fun _ => rfl).2 _ _ hshut
  exact ⟨_, _, hshut, rfl, hanswer⟩

/-- The listener is not entered because the signal is cancelled, and yet the
broadcast is not reported as cancelled in front of it. -/
theorem cancelled_inside_chain_counts_as_failure :
    let r : Registry Unit Empty Catalog.Notification := .ofList [
      .listener .deleted (.singleton (.recording "first" ())),
      .listenerInterceptor .deleted (.singleton (cancelling 0))]
    let m : Mediator Unit Empty Catalog.Notification := ⟨r.lookup, {}⟩
    let run := (m.publish .deleted (⟨⟨7⟩⟩ : Catalog.ItemDeleted) (.source 0)).run
      { state := (), sources := [{}] }
    run.trace.journal = [] ∧
      run.exit = .value (.error (.notificationFailed "ItemDeleted" ⟨0, 0, .cancelled⟩)) ∧
      run.exit ≠ .value (.error (.publishCancelled "ItemDeleted" 0)) := by
  refine ⟨rfl, rfl, ?_⟩
  intro h
  cases h

end Mediator

end Switchboard
