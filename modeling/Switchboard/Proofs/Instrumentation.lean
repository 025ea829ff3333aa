import Switchboard.Catalog.Message
import Switchboard.Interceptor.Double
import Switchboard.Interceptor.Logging
import Switchboard.Proofs.Lifetimes

/-!
# Instrumentation

Two mediators that differ only in whether their calls are instrumented run every
session alike, but for the spans in what they report (`session_but_for_spans`).

The relations `Lookup.Sends`, `Delivers`, `Broadcasts`, `Publishes`, `Performs` and
`Holds` describe a session with its trace cut into parts: what is reported while a chain
runs, with the span of the call, and what is reported outside of any chain. None of
them knows of instrumentation. Both traces are then read off the parts: without
instrumentation each part is shown as it is, and with it those inside a chain are
shown with their span.
-/

namespace Switchboard

variable {σ ρ ν α β : Type}

/-! ## Parts of a trace -/

/-- A part of what a call reports. -/
inductive Part where
  /-- Reported by the mediator, by one of its lookups or by the caller. -/
  | outside (t : Trace)
  /-- Reported while a chain runs, with the span of its call. -/
  | inside (span : Span) (t : Trace)

def Part.shown (instrument : Bool) : Part → Trace
  | outside t => t
  | inside span t => if instrument then t.map (Report.inside span) else t

/-- A run with its trace in parts. -/
structure PartedRun (σ α : Type) where
  exit : Exit α
  world : World σ
  parts : List Part

namespace PartedRun

/-- The run as it is seen with instrumentation or without. -/
def shown (instrument : Bool) (r : PartedRun σ α) : Run σ α :=
  ⟨r.exit, r.world, r.parts.flatMap (Part.shown instrument)⟩

def after (before : List Part) (r : PartedRun σ α) : PartedRun σ α :=
  { r with parts := before ++ r.parts }

def map (f : α → β) (r : PartedRun σ α) : PartedRun σ β :=
  ⟨r.exit.map f, r.world, r.parts⟩

theorem shown_after (instrument : Bool) (before : List Part) (r : PartedRun σ α) :
    (r.after before).shown instrument =
      (r.shown instrument).after (before.flatMap (Part.shown instrument)) :=
  congrArg (Run.mk r.exit r.world) List.flatMap_append

end PartedRun

theorem Action.run_map_shown {a : Action σ α} {w : World σ} {instrument : Bool}
    {r : PartedRun σ α} (h : a.run w = r.shown instrument) (f : α → β) :
    (f <$> a).run w = (r.map f).shown instrument := by
  rw [run_map, h]
  rfl

/-! ## What instrumentation leaves as it is -/

/-- The event as it is without any span. -/
def Event.bare (e : Event) : Event :=
  { e with spans := [] }

@[simp] theorem Trace.events_append (t t' : Trace) :
    Trace.events (t ++ t') = t.events ++ t'.events :=
  List.filterMap_append

theorem Trace.bare_inside (span : Span) (t : Trace) :
    (Trace.events (t.map (Report.inside span))).map Event.bare = t.events.map Event.bare := by
  induction t with
  | nil => rfl
  | cons r t ih =>
      cases r with
      | event e => exact congrArg (e.bare :: ·) ih
      | entry text => exact ih

/-- What is read off a trace part by part and does not see spans is the same with
instrumentation and without. -/
theorem PartedRun.read_shown (read : Trace → List β)
    (happend : ∀ t t', read (t ++ t') = read t ++ read t')
    (hinside : ∀ span t, read (t.map (Report.inside span)) = read t) (r : PartedRun σ α) :
    read (r.shown true).trace = read (r.shown false).trace := by
  have hpart (part : Part) : read (part.shown true) = read (part.shown false) := by
    cases part with
    | outside t => rfl
    | inside span t => exact hinside span t
  show read (r.parts.flatMap _) = read (r.parts.flatMap _)
  induction r.parts with
  | nil => rfl
  | cons part parts ih =>
      rw [List.flatMap_cons, List.flatMap_cons, happend, happend, hpart, ih]

theorem PartedRun.journal_shown (r : PartedRun σ α) :
    (r.shown true).trace.journal = (r.shown false).trace.journal :=
  r.read_shown Trace.journal Trace.journal_append Trace.journal_inside

theorem PartedRun.bare_shown (r : PartedRun σ α) :
    (r.shown true).trace.events.map Event.bare = (r.shown false).trace.events.map Event.bare := by
  refine r.read_shown (fun t => t.events.map Event.bare) (fun t t' => ?_) Trace.bare_inside
  rw [Trace.events_append, List.map_append]

/-! ## Requests, part by part -/

variable [Requests ρ] [Messages ν]

/-- The event of a request type without just one handler. -/
def dispatchFailed (k : ρ) (e : DispatchError) : Report :=
  .event {
    level := .error
    message := "Dispatch failed"
    fields := [(Topic.request k).field, ("error", e.message)] }

section

variable (l : Lookup σ ρ ν) (k : ρ) (request : Body k) (signal : Signal) (w : World σ)

/-- A request. What its lookups report and the mediator's own events are outside of
the chain, in front of it and behind it. The span of the chain is called `send` and
carries the type of the request. -/
inductive Lookup.Sends : PartedRun σ (Except DispatchError (Outcome (Reply k))) → Prop
  | lost {p : Panic} {w' : World σ} {t : Trace}
      (hhandler : (l.handler k).run w = ⟨.panicked p, w', t⟩) :
      Sends ⟨.panicked p, w', [.outside t]⟩
  | refused {e : DispatchError} {w' : World σ} {t : Trace}
      (hhandler : (l.handler k).run w = ⟨.value (.error e), w', t⟩) :
      Sends ⟨.value (.error e), w', [.outside (t ++ [dispatchFailed k e])]⟩
  | unlinked {handler : RequestHandler σ k} {p : Panic} {w₀ w' : World σ} {t₀ t₁ : Trace}
      (hhandler : (l.handler k).run w = ⟨.value (.ok handler), w₀, t₀⟩)
      (hlinks : (l.interceptors k).run w₀ = ⟨.panicked p, w', t₁⟩) :
      Sends ⟨.panicked p, w', [.outside (t₀ ++ t₁)]⟩
  | chained {handler : RequestHandler σ k} {links : List (RequestInterceptor σ k)}
      {w₀ w₁ w' : World σ} {t₀ t₁ t : Trace} {exit : Exit (Outcome (Reply k))}
      (hhandler : (l.handler k).run w = ⟨.value (.ok handler), w₀, t₀⟩)
      (hlinks : (l.interceptors k).run w₀ = ⟨.value links, w₁, t₁⟩)
      (hchain : (chain (.request k) handler links request signal).run w₁ = ⟨exit, w', t⟩) :
      Sends ⟨exit.map .ok, w', [
        .outside (t₀ ++ t₁ ++ [Mediator.dispatching k links.length]),
        .inside ⟨"send", [("request_type", Messages.name k)]⟩ t,
        .outside (Mediator.completed k exit)]⟩

/-- Every request is one of these, instrumented or not. -/
theorem Mediator.send_shown (strategy : PublishStrategy) :
    ∃ r, l.Sends k request signal w r ∧ ∀ instrument,
      ((Mediator.mk l { strategy, instrument }).send k request signal).run w =
        r.shown instrument := by
  rcases hhandler : (l.handler k).run w with ⟨exit, w₀, t₀⟩
  cases exit with
  | panicked p =>
      refine ⟨_, .lost hhandler, fun instrument => ?_⟩
      rw [send, Action.run_bind_of_panic hhandler]
      simp [PartedRun.shown, Part.shown]
  | value found =>
      cases found with
      | error e =>
          refine ⟨_, .refused hhandler, fun instrument => ?_⟩
          rw [send, Action.run_bind_of_value hhandler]
          simp only [Action.run_log_bind, Action.run_pure]
          simp [PartedRun.shown, Part.shown, dispatchFailed]
      | ok handler =>
          rcases hlinks : (l.interceptors k).run w₀ with ⟨exit, w₁, t₁⟩
          cases exit with
          | panicked p =>
              refine ⟨_, .unlinked hhandler hlinks, fun instrument => ?_⟩
              rw [send, Action.run_bind_of_value hhandler]
              simp [Action.run_bind_of_panic hlinks, PartedRun.shown, Part.shown]
          | value links =>
              rcases hchain : (chain (.request k) handler links request signal).run w₁ with
                ⟨exit, w', t⟩
              refine ⟨_, .chained hhandler hlinks hchain, fun instrument => ?_⟩
              rw [run_send_eq hhandler hlinks, hchain]
              simp [sentRun, seen, sendSpan, Topic.request, Topic.field, PartedRun.shown, Part.shown]

end

/-! ## Broadcasts, part by part -/

section

variable (l : Lookup σ ρ ν) (strategy : PublishStrategy) (n : ν) (event : Body n)
  (signal : Signal)

/-- A delivery. The interceptors are looked up outside of the chain. Its span is called
`publish` and carries the type of the notification and the number of the listener. -/
inductive Lookup.Delivers (index : Nat) (listener : Listener σ n) (w : World σ) :
    PartedRun σ (Outcome Unit) → Prop
  | unlinked {p : Panic} {w' : World σ} {t : Trace}
      (hlinks : (l.listenerInterceptors n).run w = ⟨.panicked p, w', t⟩) :
      Delivers index listener w ⟨.panicked p, w', [.outside t]⟩
  | chained {links : List (ListenerInterceptor σ n)} {w₀ w' : World σ} {t₀ t : Trace}
      {exit : Exit (Outcome Unit)}
      (hlinks : (l.listenerInterceptors n).run w = ⟨.value links, w₀, t₀⟩)
      (hchain : (chain (.notification n) listener links event signal).run w₀ = ⟨exit, w', t⟩) :
      Delivers index listener w
        ⟨exit, w', [.outside t₀,
          .inside ⟨"publish", [("notification_type", Messages.name n),
            ("handler_index", Decimal.format index)]⟩ t]⟩

theorem Mediator.deliver_shown (index : Nat) (listener : Listener σ n) (w : World σ) :
    ∃ r, l.Delivers n event signal index listener w r ∧ ∀ instrument,
      ((Mediator.mk l { strategy, instrument }).deliver n event signal index listener).run w =
        r.shown instrument := by
  rcases hlinks : (l.listenerInterceptors n).run w with ⟨exit, w₀, t₀⟩
  cases exit with
  | panicked p =>
      refine ⟨_, .unlinked hlinks, fun instrument => ?_⟩
      rw [deliver, Action.run_bind_of_panic hlinks]
      simp [PartedRun.shown, Part.shown]
  | value links =>
      rcases hchain : (chain (.notification n) listener links event signal).run w₀ with
        ⟨exit, w', t⟩
      refine ⟨_, .chained hlinks hchain, fun instrument => ?_⟩
      rw [run_deliver_eq hlinks index listener hchain]
      simp [seen, publishSpan, Topic.notification, Topic.field, PartedRun.shown, Part.shown]

/-- A broadcast from listener number `index` on, where `failures` are those of the
listeners before. The events of the mediator are outside of every chain. -/
inductive Lookup.Broadcasts : (index : Nat) → (failures : List HandlerFailure) →
    List (Listener σ n) → World σ → PartedRun σ (Except DispatchError Unit) → Prop
  | completed {index : Nat} {failures : List HandlerFailure} {w : World σ} :
      Broadcasts index failures [] w ⟨.value (Mediator.broadcastResult n failures), w, []⟩
  | cancelled {index : Nat} {failures : List HandlerFailure} {listener : Listener σ n}
      {rest : List (Listener σ n)} {w : World σ}
      (hcancelled : w.sources.isCancelled signal = true) :
      Broadcasts index failures (listener :: rest) w
        ⟨.value (.error (.publishCancelled (Messages.name n) index)), w,
          [.outside [Mediator.skipped n index]]⟩
  | panicked {index : Nat} {failures : List HandlerFailure} {listener : Listener σ n}
      {rest : List (Listener σ n)} {w w' : World σ} {p : Panic} {parts : List Part}
      (hopen : w.sources.isCancelled signal = false)
      (hdelivers : l.Delivers n event signal index listener w ⟨.panicked p, w', parts⟩) :
      Broadcasts index failures (listener :: rest) w ⟨.panicked p, w', parts⟩
  | delivered {index : Nat} {failures : List HandlerFailure} {listener : Listener σ n}
      {rest : List (Listener σ n)} {w w₁ : World σ} {parts : List Part}
      {r : PartedRun σ (Except DispatchError Unit)}
      (hopen : w.sources.isCancelled signal = false)
      (hdelivers : l.Delivers n event signal index listener w ⟨.value (.ok ()), w₁, parts⟩)
      (hrest : Broadcasts (index + 1) failures rest w₁ r) :
      Broadcasts index failures (listener :: rest) w (r.after parts)
  | stopped {index : Nat} {failures : List HandlerFailure} {listener : Listener σ n}
      {rest : List (Listener σ n)} {w w₁ : World σ} {f : Failure} {parts : List Part}
      (hopen : w.sources.isCancelled signal = false)
      (hdelivers : l.Delivers n event signal index listener w ⟨.value (.error f), w₁, parts⟩)
      (hstrategy : strategy = .stopOnFirstError) :
      Broadcasts index failures (listener :: rest) w
        ⟨.value (.error (.notificationFailed (Messages.name n) ⟨index, f⟩)), w₁,
          parts ++ [.outside [Delivery.warning n ⟨index, f⟩]]⟩
  | failed {index : Nat} {failures : List HandlerFailure} {listener : Listener σ n}
      {rest : List (Listener σ n)} {w w₁ : World σ} {f : Failure} {parts : List Part}
      {r : PartedRun σ (Except DispatchError Unit)}
      (hopen : w.sources.isCancelled signal = false)
      (hdelivers : l.Delivers n event signal index listener w ⟨.value (.error f), w₁, parts⟩)
      (hstrategy : strategy = .continueOnError)
      (hrest : Broadcasts (index + 1) (failures ++ [⟨index, f⟩]) rest w₁ r) :
      Broadcasts index failures (listener :: rest) w
        (r.after (parts ++ [.outside [Delivery.warning n ⟨index, f⟩]]))

theorem Mediator.broadcast_shown (index : Nat) (failures : List HandlerFailure)
    (listeners : List (Listener σ n)) (w : World σ) :
    ∃ r, l.Broadcasts strategy n event signal index failures listeners w r ∧ ∀ instrument,
      ((Mediator.mk l { strategy, instrument }).broadcast n event signal index failures
        listeners).run w = r.shown instrument := by
  induction listeners generalizing index failures w with
  | nil => exact ⟨_, .completed, fun _ => rfl⟩
  | cons listener rest ih =>
      cases hsig : w.sources.isCancelled signal with
      | true => exact ⟨_, .cancelled hsig, fun _ => run_broadcast_cancelled hsig⟩
      | false =>
          obtain ⟨⟨exit, w₁, parts⟩, hdelivers, hrun⟩ :=
            deliver_shown l strategy n event signal index listener w
          cases exit with
          | panicked p =>
              exact ⟨_, .panicked hsig hdelivers, fun i => run_broadcast_panicked hsig (hrun i)⟩
          | value o =>
              cases o with
              | ok _ =>
                  obtain ⟨r, hrest, hshown⟩ := ih (index + 1) failures w₁
                  refine ⟨_, .delivered hsig hdelivers hrest, fun instrument => ?_⟩
                  rw [run_broadcast_ok hsig (hrun instrument), hshown, PartedRun.shown_after]
              | error f =>
                  -- the warning comes after the chain, and before the next one is started
                  cases strategy with
                  | stopOnFirstError =>
                      refine ⟨_, .stopped hsig hdelivers rfl, fun instrument => ?_⟩
                      rw [run_broadcast_error hsig (hrun instrument)]
                      simp [PartedRun.shown, Part.shown]
                  | continueOnError =>
                      obtain ⟨r, hrest, hshown⟩ := ih (index + 1) (failures ++ [⟨index, f⟩]) w₁
                      refine ⟨_, .failed hsig hdelivers rfl hrest, fun instrument => ?_⟩
                      rw [run_broadcast_error hsig (hrun instrument)]
                      simp [hshown, PartedRun.shown_after, Part.shown]

inductive Lookup.Publishes (w : World σ) : PartedRun σ (Except DispatchError Unit) → Prop
  | lost {p : Panic} {w' : World σ} {t : Trace}
      (hlisteners : (l.listeners n).run w = ⟨.panicked p, w', t⟩) :
      Publishes w ⟨.panicked p, w', [.outside t]⟩
  | opened {listeners : List (Listener σ n)} {w₀ : World σ} {t : Trace}
      {r : PartedRun σ (Except DispatchError Unit)}
      (hlisteners : (l.listeners n).run w = ⟨.value listeners, w₀, t⟩)
      (hbroadcasts : l.Broadcasts strategy n event signal 0 [] listeners w₀ r) :
      Publishes w (r.after [.outside (t ++ [Mediator.opened n listeners.length])])

theorem Mediator.publish_shown (w : World σ) :
    ∃ r, l.Publishes strategy n event signal w r ∧ ∀ instrument,
      ((Mediator.mk l { strategy, instrument }).publish n event signal).run w =
        r.shown instrument := by
  rcases hlisteners : (l.listeners n).run w with ⟨exit, w₀, t⟩
  cases exit with
  | panicked p =>
      refine ⟨_, .lost hlisteners, fun instrument => ?_⟩
      rw [publish, Action.run_bind_of_panic hlisteners]
      simp [PartedRun.shown, Part.shown]
  | value listeners =>
      obtain ⟨r, hbroadcasts, hshown⟩ := broadcast_shown l strategy n event signal 0 [] listeners w₀
      refine ⟨_, .opened hlisteners hbroadcasts, fun instrument => ?_⟩
      rw [run_publish hlisteners, hshown, PartedRun.shown_after]
      simp [Part.shown]

end

/-! ## Sessions -/

section

variable (l : Lookup σ ρ ν) (strategy : PublishStrategy)

/-- One call of a session. What the caller does without the mediator is outside of
every chain. -/
inductive Lookup.Performs (w : World σ) : Call σ ρ ν → PartedRun σ (Answer ρ) → Prop
  | send {k : ρ} {request : Body k} {signal : Signal}
      {r : PartedRun σ (Except DispatchError (Outcome (Reply k)))}
      (h : l.Sends k request signal w r) :
      Performs w (.send k request signal) (r.map (.sent k))
  | publish {n : ν} {event : Body n} {signal : Signal} {r : PartedRun σ (Except DispatchError Unit)}
      (h : l.Publishes strategy n event signal w r) :
      Performs w (.publish n event signal) (r.map .published)
  | act {a : Action σ Unit} {exit : Exit Unit} {w' : World σ} {t : Trace}
      (h : a.run w = ⟨exit, w', t⟩) :
      Performs w (.act a) ⟨exit.map fun _ => .acted, w', [.outside t]⟩

theorem Call.perform_shown (call : Call σ ρ ν) (w : World σ) :
    ∃ r, l.Performs strategy w call r ∧ ∀ instrument,
      (call.perform ⟨l, { strategy, instrument }⟩).run w = r.shown instrument := by
  cases call with
  | send k request signal =>
      obtain ⟨r, hsends, hshown⟩ := Mediator.send_shown l k request signal w strategy
      exact ⟨_, .send hsends, fun i => Action.run_map_shown (hshown i) (Answer.sent k)⟩
  | publish n event signal =>
      obtain ⟨r, hpublishes, hshown⟩ := Mediator.publish_shown l strategy n event signal w
      exact ⟨_, .publish hpublishes, fun i => Action.run_map_shown (hshown i) Answer.published⟩
  | act a =>
      refine ⟨_, .act rfl, fun instrument => ?_⟩
      rw [perform, Action.run_map]
      simp [PartedRun.shown, Part.shown]

/-- A session, call after call, each in the world that the one before has left. -/
inductive Lookup.Holds : List (Call σ ρ ν) → World σ → PartedRun σ (List (Exit (Answer ρ))) → Prop
  | nil {w : World σ} : Holds [] w ⟨.value [], w, []⟩
  | cons {call : Call σ ρ ν} {calls : List (Call σ ρ ν)} {w w₁ : World σ} {ended : Exit (Answer ρ)}
      {parts : List Part} {r : PartedRun σ (List (Exit (Answer ρ)))}
      (hcall : l.Performs strategy w call ⟨ended, w₁, parts⟩) (hcalls : Holds calls w₁ r) :
      Holds (call :: calls) w ((r.map (List.cons ended)).after parts)

theorem Mediator.session_shown (calls : List (Call σ ρ ν)) (w : World σ) :
    ∃ r, l.Holds strategy calls w r ∧ ∀ instrument,
      ((Mediator.mk l { strategy, instrument }).session calls).run w = r.shown instrument := by
  induction calls generalizing w with
  | nil => exact ⟨_, .nil, fun _ => rfl⟩
  | cons call calls ih =>
      obtain ⟨⟨ended, w₁, parts⟩, hcall, hrun⟩ := call.perform_shown l strategy w
      obtain ⟨r, hcalls, hshown⟩ := ih w₁
      refine ⟨_, .cons hcall hcalls, fun instrument => ?_⟩
      rw [session, Action.run_attempt_bind, hrun, PartedRun.shown_after]
      exact congrArg _ (Action.run_map_shown (hshown instrument) (List.cons ended))

/-- A session of any calls through two mediators that differ only in whether they are
instrumented. There is one run, described without regard to that, which both of them
show: the same answers and panics, the same world, and the same reports in the same
order, where those inside a chain have the span of their call if calls are
instrumented, and all others are the same. In particular the journal is the same, and
so are the events but for their spans. -/
theorem Mediator.session_but_for_spans (calls : List (Call σ ρ ν)) (w : World σ) :
    ∃ r, l.Holds strategy calls w r ∧
      (∀ instrument, ((Mediator.mk l { strategy, instrument }).session calls).run w =
        r.shown instrument) ∧
      (r.shown true).trace.journal = (r.shown false).trace.journal ∧
      (r.shown true).trace.events.map Event.bare = (r.shown false).trace.events.map Event.bare := by
  obtain ⟨r, hholds, hshown⟩ := session_shown l strategy calls w
  exact ⟨r, hholds, hshown, r.journal_shown, r.bare_shown⟩

/-- A request, and a notification whose first listener fails: the warning of its interceptor
is inside of its chain, and that of the mediator is in no span. -/
theorem Mediator.request_and_notification_in_spans :
    let registry : Registry Unit Catalog.Request Catalog.Notification := .ofList [
      .handler .delete (.singleton (.recording "handler" ())),
      .interceptor .delete (.singleton (.logging Catalog.Request.delete)),
      .listener .deleted (.singleton (.failing "first" ⟨0, .conflict "busy"⟩)),
      .listener .deleted (.singleton (.recording "second" ())),
      .listenerInterceptor .deleted (.singleton (.listenerLogging Catalog.Notification.deleted))]
    let calls : List (Call Unit Catalog.Request Catalog.Notification) := [
      .send .delete (⟨⟨7⟩⟩ : Catalog.DeleteItem) .never,
      .publish .deleted (⟨⟨7⟩⟩ : Catalog.ItemDeleted) .never]
    let sent : Span := ⟨"send", [("request_type", "DeleteItem")]⟩
    let published (index : String) : Span :=
      ⟨"publish", [("notification_type", "ItemDeleted"), ("handler_index", index)]⟩
    ∃ r, registry.lookup.Holds .continueOnError calls { state := () } r ∧
      (r.shown true).trace.events.map (fun e => (e.message, e.spans)) = [
        ("Dispatching request", []),
        ("Handling request", [sent]),
        ("Request handled", [sent]),
        ("Request completed", []),
        ("Publishing notification", []),
        ("Handling notification", [published "0"]),
        ("Notification handler failed", [published "0"]),
        ("Notification handler failed", []),
        ("Handling notification", [published "1"]),
        ("Notification handled", [published "1"])] ∧
      ∀ e ∈ (r.shown false).trace.events, e.spans = [] := by
  intro registry calls sent published
  obtain ⟨r, hholds, hshown, -, -⟩ :=
    session_but_for_spans registry.lookup .continueOnError calls { state := () }
  refine ⟨r, hholds, ?_, ?_⟩
  · rw [← hshown true]
    decide +kernel
  · rw [← hshown false]
    decide +kernel

end

end Switchboard
