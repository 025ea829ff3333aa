import Switchboard.Proofs.Interruption

/-!
# Unwinding

What becomes of a panic on its way out of a chain. Links that only forward a
message do nothing more for it: they report nothing, and the panic goes on. The
innermost panic boundary around it catches it, and from there on the way out is
that of an ordinary failure. Without a boundary the panic reaches the caller.

- `chain_unwinds`: a panic behind links that forward or catch;
- `Mediator.nearest_boundary_catches`: the same of calls and of broadcasts, where
  a panic that was caught is one more failure of a listener and one that was not
  caught ends the broadcast.
-/

namespace Switchboard

variable {σ M R : Type}

/-! ## Links on the way out -/

/-- Hands on every outcome as it is, and lets every panic go on. -/
structure Relays (finish : Finish σ R) : Prop where
  rethrows : ∀ p, finish (.panicked p) = Action.panic p
  handsBack : HandsBack finish

namespace Interceptor

/-- Lets the message go on as it came, without cancelling its signal, and relays
how the rest of the chain has ended. It may do anything else to the world. -/
def Forwards (link : Interceptor σ M R) (message : M) (signal : Signal) : Prop :=
  ∀ handlerNext w, w.sources.isCancelled signal = false → ∃ finish w' t,
    (link.enter message signal handlerNext).run w =
        ⟨.value (.proceed message signal finish), w', t⟩ ∧
      w'.sources.isCancelled signal = false ∧ Relays finish

theorem recording_forwards (name : String) (message : M) (signal : Signal) :
    (recording name : Interceptor σ M R).Forwards message signal :=
  fun _ w hw => ⟨_, w, [.entry (name ++ "-before")], rfl, hw, fun _ => rfl, fun _ _ => rfl⟩

theorem logging_forwards {κ : Type} [Requests κ] (k : κ) (request : Body k) (signal : Signal) :
    (logging k : Interceptor σ (Body k) (Reply k)).Forwards request signal :=
  fun _ w hw => ⟨_, w, _, rfl, hw, fun _ => rfl, fun o _ => by cases o <;> rfl⟩

theorem listenerLogging_forwards {κ : Type} [Messages κ] (k : κ) (event : Body k)
    (signal : Signal) :
    (listenerLogging k : Interceptor σ (Body k) Unit).Forwards event signal :=
  fun _ w hw => ⟨_, w, _, rfl, hw, fun _ => rfl, fun o _ => by cases o <;> rfl⟩

theorem validation_forwards {topic : Topic} {validate : Validator M} {message : M}
    (h : validate message = []) (signal : Signal) :
    (validation topic validate : Interceptor σ M R).Forwards message signal := by
  intro handlerNext w hw
  have henter : (validation topic validate : Interceptor σ M R).enter message signal handlerNext =
      pure (.forward message signal pure) := by simp only [validation, h]
  exact ⟨_, w, [], by rw [henter]; rfl, hw, fun _ => rfl, fun _ _ => rfl⟩

/-- What a panic boundary does when the rest of the chain has ended. -/
def catching (topic : Topic) : Finish σ R
  | .value o => pure o
  | .panicked p => do
    Action.emit (panicEvent topic p)
    Action.fail (.unexpected (panicMessage p))

/-- A panic boundary does not forward: it lets no panic go on. -/
theorem panicBoundary_not_forwards (topic : Topic) (message : M) {signal : Signal} {w : World σ}
    (hw : w.sources.isCancelled signal = false) :
    ¬ (panicBoundary topic : Interceptor σ M R).Forwards message signal := by
  intro h
  obtain ⟨finish, w', t, henter, -, hrelays⟩ := h true w hw
  cases henter
  cases hrelays.rethrows .other

end Interceptor

/-- What a panic says: the text of its payload, or a stand-in for one that is no text. -/
def Panic.words : Panic → String
  | .text words => words
  | .other => "handler panicked"

/-- The event of a panic boundary that catches a panic. -/
def caughtEvent (topic : Topic) (p : Panic) : Report :=
  .event {
    level := .warn
    message := p.words
    fields := [topic.field]
    headline := match topic.role with
      | .request => some "Handler panicked"
      | .notification => some "Notification handler panicked" }

/-- The failure that a panic boundary makes of a panic that left the world `v`: a fresh
one of kind `unexpected`, whose message is what the panic says. -/
def caughtFailure (p : Panic) (v : World σ) : Failure :=
  v.fresh { kind := .unexpected, code := "unexpected", message := p.words }

theorem Interceptor.run_catching (topic : Topic) (p : Panic) (v : World σ) :
    (catching topic (.panicked p) : Action σ (Outcome R)).run v =
      ⟨.value (.error (caughtFailure p v)), v.marked, [caughtEvent topic p]⟩ := by
  cases p <;> rfl

/-- What a link leaves for the way out, if it catches or forwards. -/
inductive Guards (message : M) (signal : Signal) : Interceptor σ M R → Finish σ R → Prop
  | catches (topic : Topic) :
      Guards message signal (.panicBoundary topic) (Interceptor.catching topic)
  | forwards {link : Interceptor σ M R} {finish : Finish σ R}
      (hlink : link.Forwards message signal) (hfinish : Relays finish) :
      Guards message signal link finish

theorem Guards.handsBack {message : M} {signal : Signal} {link : Interceptor σ M R}
    {finish : Finish σ R} (h : Guards message signal link finish) : HandsBack finish := by
  cases h with
  | catches topic => exact fun _ _ => rfl
  | forwards _ hfinish => exact hfinish.handsBack

/-- A message passes links that catch or forward, as it came. -/
theorem passed_of_guards {message : M} {signal : Signal} {outer : List (Interceptor σ M R)}
    (houter : ∀ link ∈ outer, (∃ topic, link = .panicBoundary topic) ∨
      link.Forwards message signal) (last : Bool) {w : World σ}
    (hopen : w.sources.isCancelled signal = false) :
    ∃ finishes v t, Passed last outer ⟨message, signal, w⟩ finishes ⟨message, signal, v⟩ t ∧
      v.sources.isCancelled signal = false ∧
      List.Forall₂ (Guards message signal) outer finishes := by
  induction outer generalizing w with
  | nil => exact ⟨[], w, [], .none _, hopen, .nil⟩
  | cons link rest ih =>
      have hrest := fun later hlater => houter later (List.mem_cons_of_mem _ hlater)
      obtain ⟨finish, w₁, t₁, henter, hopen₁, hguards⟩ : ∃ finish w₁ t₁,
          (link.enter message signal (rest.isEmpty && last)).run w =
              ⟨.value (.proceed message signal finish), w₁, t₁⟩ ∧
            w₁.sources.isCancelled signal = false ∧ Guards message signal link finish := by
        rcases houter link List.mem_cons_self with ⟨topic, rfl⟩ | hforwards
        · exact ⟨_, w, [], rfl, hopen, .catches topic⟩
        · obtain ⟨finish, w₁, t₁, henter, hopen₁, hrelays⟩ := hforwards _ w hopen
          exact ⟨finish, w₁, t₁, henter, hopen₁, .forwards hforwards hrelays⟩
      obtain ⟨finishes, v, t₂, hpassed, hv, hfinishes⟩ := ih hrest hopen₁
      exact ⟨finish :: finishes, v, t₁ ++ t₂, .next hopen henter hpassed, hv,
        .cons hguards hfinishes⟩

/-! ## The way of a panic -/

/-- How a panic `p` that left the world `v` comes out of the links around it, and
what is still reported on its way. -/
inductive Unwinds (message : M) (signal : Signal) (p : Panic) (v : World σ) :
    List (Interceptor σ M R) → List (Finish σ R) → Run σ (Outcome R) → Prop
  /-- There is no boundary: the panic goes on, and nothing more is done. -/
  | escapes {outer : List (Interceptor σ M R)} {finishes : List (Finish σ R)}
      (houter : ∀ link ∈ outer, link.Forwards message signal) :
      Unwinds message signal p v outer finishes ⟨.panicked p, v, []⟩
  /-- The innermost boundary makes a failure of the panic. The links inside of it
  do nothing more, and those outside of it finish as they do whenever the rest of
  their chain has ended with a failure. -/
  | caught {outside between : List (Interceptor σ M R)} {finishes inner : List (Finish σ R)}
      {topic : Topic} {w' : World σ} {t : Trace}
      (hbetween : ∀ link ∈ between, link.Forwards message signal)
      (hlength : finishes.length = outside.length)
      (hout : (wayOut finishes (.value (.error (caughtFailure p v)))).run v.marked =
        ⟨.value (.error (caughtFailure p v)), w', t⟩) :
      Unwinds message signal p v (outside ++ .panicBoundary topic :: between) (finishes ++ inner)
        ⟨.value (.error (caughtFailure p v)), w', caughtEvent topic p :: t⟩

/-- The outermost link is the boundary that catches. -/
theorem Unwinds.caught_first {message : M} {signal : Signal} {p : Panic} {v : World σ}
    {between : List (Interceptor σ M R)} {inner : List (Finish σ R)} {topic : Topic}
    (hbetween : ∀ link ∈ between, link.Forwards message signal) :
    Unwinds message signal p v (.panicBoundary topic :: between) inner
      ⟨.value (.error (caughtFailure p v)), v.marked, [caughtEvent topic p]⟩ :=
  have hout : (wayOut ([] : List (Finish σ R)) (.value (.error (caughtFailure p v)))).run v.marked =
    ⟨.value (.error (caughtFailure p v)), v.marked, []⟩ := rfl
  have hlength : ([] : List (Finish σ R)).length = ([] : List (Interceptor σ M R)).length := rfl
  .caught hbetween hlength hout

theorem unwinds_of_guards {message : M} {signal : Signal} {outer : List (Interceptor σ M R)}
    {finishes : List (Finish σ R)} (h : List.Forall₂ (Guards message signal) outer finishes)
    (p : Panic) (v : World σ) :
    Unwinds message signal p v outer finishes ((wayOut finishes (.panicked p)).run v) := by
  induction h with
  | nil => exact .escapes nofun
  | @cons link finish outer finishes hguards _ ih =>
      rw [wayOut, Action.run_attempt_bind]
      generalize (wayOut finishes (.panicked p)).run v = r at ih
      cases ih with
      | escapes houter =>
          cases hguards with
          | catches topic =>
              rw [Interceptor.run_catching]
              exact .caught_first houter
          | forwards hlink hfinish =>
              rw [hfinish.rethrows]
              exact .escapes (List.forall_mem_cons.mpr ⟨hlink, houter⟩)
      | @caught outside between finishes inner topic w' t hbetween hlength hout =>
          have hback := hguards.handsBack (.error (caughtFailure p v)) w'
          rcases hrun : (finish (.value (.error (caughtFailure p v)))).run w' with ⟨exit, w'', t'⟩
          rw [hrun] at hback
          subst hback
          rw [← List.cons_append, ← List.cons_append]
          refine .caught hbetween (congrArg (· + 1) hlength) ?_
          rw [wayOut, Action.run_attempt_bind, hout, hrun]
          rfl

/-- A boundary among the links keeps the panic in. -/
theorem Unwinds.exit_of_boundary {message : M} {signal : Signal} {p : Panic} {v : World σ}
    {outer : List (Interceptor σ M R)} {finishes : List (Finish σ R)} {r : Run σ (Outcome R)}
    (h : Unwinds message signal p v outer finishes r) {topic : Topic}
    (hboundary : .panicBoundary topic ∈ outer) (hopen : v.sources.isCancelled signal = false) :
    r.exit = .value (.error (caughtFailure p v)) := by
  cases h with
  | escapes houter =>
      exact absurd (houter _ hboundary) (Interceptor.panicBoundary_not_forwards topic message hopen)
  | caught => rfl

/-- A panic behind links that catch or forward, in a chain whose signal is not
cancelled. The message comes to the rest of the chain as it was given; if that
panics, in its first link or anywhere behind it, the panic unwinds from there. -/
theorem chain_unwinds {outer : List (Interceptor σ M R)} {message : M} {signal : Signal}
    (houter : ∀ link ∈ outer, (∃ topic, link = .panicBoundary topic) ∨
      link.Forwards message signal) {w : World σ} (hopen : w.sources.isCancelled signal = false)
    (topic : Topic) (handler : Handler σ M R) (inner : List (Interceptor σ M R)) :
    ∃ finishes v t, Passed inner.isEmpty outer ⟨message, signal, w⟩ finishes
        ⟨message, signal, v⟩ t ∧
      v.sources.isCancelled signal = false ∧
      ∀ p v' t', (chain topic handler inner message signal).run v = ⟨.panicked p, v', t'⟩ →
        ∃ r, Unwinds message signal p v' outer finishes r ∧
          (chain topic handler (outer ++ inner) message signal).run w = r.after (t ++ t') := by
  obtain ⟨finishes, v, t, hpassed, hv, hguards⟩ := passed_of_guards houter inner.isEmpty hopen
  refine ⟨finishes, v, t, hpassed, hv, fun p v' t' hinner => ?_⟩
  refine ⟨_, unwinds_of_guards hguards p v', ?_⟩
  rw [hpassed.run_chain topic handler, Action.run_attempt_bind, hinner, Run.after_after]

/-! ## Calls and broadcasts -/

namespace Mediator

variable {ρ ν : Type} [Requests ρ] [Messages ν]

/-- What the mediator reports of a broadcast to `count` listeners until it has
made the deliveries `ds`, after a lookup that reported `before`. -/
def broadcastSoFar (n : ν) (before : Trace) (count : Nat) (ds : List (Delivery σ)) : Trace :=
  before ++ [opened n count] ++ ds.flatMap (Delivery.reports n)

/-- A panic in a chain whose first links catch or forward and whose signal is not
cancelled, be it raised by the handler or by a link, before it lets the message go
on or afterwards. It comes out of these links as `Unwinds` says: the innermost
boundary among them turns it into a fresh failure, or there is none and it goes
on. A call then returns that failure or panics with the same payload. In a
broadcast the failure counts as that of the listener, and the strategy decides
whether the broadcast goes on; a panic ends it, whoever the later listeners are. -/
theorem nearest_boundary_catches (m : Mediator σ ρ ν) :
    (∀ {k : ρ} {request : Body k} {signal : Signal} {handler : RequestHandler σ k}
        {w w₀ w₁ : World σ} {t₀ t₁ : Trace} (outer inner : List (RequestInterceptor σ k)),
      (m.lookup.handler k).run w = ⟨.value (.ok handler), w₀, t₀⟩ →
      (m.lookup.interceptors k).run w₀ = ⟨.value (outer ++ inner), w₁, t₁⟩ →
      (∀ link ∈ outer, (∃ topic, link = .panicBoundary topic) ∨ link.Forwards request signal) →
      w₁.sources.isCancelled signal = false →
      ∃ finishes v t, Passed inner.isEmpty outer ⟨request, signal, w₁⟩ finishes
          ⟨request, signal, v⟩ t ∧
        v.sources.isCancelled signal = false ∧
        ∀ p v' t', (chain (.request k) handler inner request signal).run v =
            ⟨.panicked p, v', t'⟩ →
          ∃ r, Unwinds request signal p v' outer finishes r ∧
            (m.send k request signal).run w =
              m.sentRun k (t₀ ++ t₁) (outer ++ inner).length (r.after (t ++ t'))) ∧
    (∀ {n : ν} {event : Body n} {signal : Signal} {ds : List (Delivery σ)}
        {w w₀ w₁ w₂ : World σ} {t₀ t₁ : Trace} (ran : List (Listener σ n)) (listener : Listener σ n)
        (rest : List (Listener σ n)) (outer inner : List (ListenerInterceptor σ n)),
      (m.lookup.listeners n).run w = ⟨.value (ran ++ listener :: rest), w₀, t₀⟩ →
      m.Delivered n event signal 0 ran w₀ ds w₁ →
      (m.config.strategy = .stopOnFirstError → failures ds = []) →
      (m.lookup.listenerInterceptors n).run w₁ = ⟨.value (outer ++ inner), w₂, t₁⟩ →
      (∀ link ∈ outer, (∃ topic, link = .panicBoundary topic) ∨ link.Forwards event signal) →
      w₂.sources.isCancelled signal = false →
      ∃ finishes v t, Passed inner.isEmpty outer ⟨event, signal, w₂⟩ finishes
          ⟨event, signal, v⟩ t ∧
        v.sources.isCancelled signal = false ∧
        ∀ p v' t', (chain (.notification n) listener inner event signal).run v =
            ⟨.panicked p, v', t'⟩ →
          ∃ r, Unwinds event signal p v' outer finishes r ∧
            let before := broadcastSoFar n t₀ (ran ++ listener :: rest).length ds ++
              (t₁ ++ m.seen (publishSpan n ran.length) (t ++ t' ++ r.trace))
            (r.exit = .panicked p →
              (m.publish n event signal).run w = ⟨.panicked p, r.world, before⟩) ∧
            ∀ f, r.exit = .value (.error f) →
              (m.publish n event signal).run w =
                match m.config.strategy with
                | .stopOnFirstError =>
                  ⟨.value (.error (.notificationFailed (Messages.name n) ⟨ran.length, f⟩)), r.world,
                    before ++ [Delivery.warning n ⟨ran.length, f⟩]⟩
                | .continueOnError =>
                  ((m.broadcast n event signal (ran.length + 1)
                    (failures ds ++ [⟨ran.length, f⟩]) rest).run r.world).after
                    (before ++ [Delivery.warning n ⟨ran.length, f⟩])) := by
  constructor
  · intro k request signal handler w w₀ w₁ t₀ t₁ outer inner hhandler hlinks houter hopen
    obtain ⟨finishes, v, t, hpassed, hv, hunwinds⟩ :=
      chain_unwinds houter hopen (.request k) handler inner
    refine ⟨finishes, v, t, hpassed, hv, fun p v' t' hinner => ?_⟩
    obtain ⟨r, hr, hchain⟩ := hunwinds p v' t' hinner
    exact ⟨r, hr, by rw [run_send_eq hhandler hlinks, hchain]⟩
  · intro n event signal ds w w₀ w₁ w₂ t₀ t₁ ran listener rest outer inner hlisteners hds hok hlinks
      houter hopen
    obtain ⟨finishes, v, t, hpassed, hv, hunwinds⟩ :=
      chain_unwinds houter hopen (.notification n) listener inner
    refine ⟨finishes, v, t, hpassed, hv, fun p v' t' hinner => ?_⟩
    obtain ⟨r, hr, hchain⟩ := hunwinds p v' t' hinner
    have hdelivery := run_deliver_eq hlinks ran.length listener hchain
    have hstarted : w₁.sources.isCancelled signal = false :=
      Action.open_of_run (m.lookup.listenerInterceptors n) (by rw [hlinks]; exact hopen)
    rw [run_publish hlisteners, run_broadcast_delivered hds hok, Nat.add_zero, List.nil_append]
    refine ⟨r, hr, fun hexit => ?_, fun f hexit => ?_⟩
    · rw [hexit] at hdelivery
      rw [run_broadcast_panicked hstarted hdelivery]
      simp [broadcastSoFar]
    · rw [hexit] at hdelivery
      rw [run_broadcast_error hstarted hdelivery]
      cases m.config.strategy <;> simp [broadcastSoFar]

theorem panics_caught_in_call_and_broadcast :
    let r : Registry Unit Catalog.Request Catalog.Notification := .ofList [
      .handler .delete (.singleton fun _ _ => .panic (.text "boom")),
      .interceptor .delete (.singleton (.recording "A")),
      .interceptor .delete (.singleton (.panicBoundary ⟨.request, "DeleteItem"⟩)),
      .interceptor .delete (.singleton (.recording "B")),
      .listener .deleted (.singleton fun _ _ => .panic .other),
      .listener .deleted (.singleton (.recording "second" ())),
      .listenerInterceptor .deleted (.singleton (.panicBoundary ⟨.notification, "ItemDeleted"⟩)),
      .listenerInterceptor .deleted (.singleton (.recording "C"))]
    let m : Mediator Unit Catalog.Request Catalog.Notification :=
      ⟨r.lookup, { strategy := .continueOnError }⟩
    let w : World Unit := { state := () }
    let sent := (m.send .delete (⟨⟨7⟩⟩ : Catalog.DeleteItem) .never).run w
    let published := (m.publish .deleted (⟨⟨7⟩⟩ : Catalog.ItemDeleted) .never).run w
    (∃ mark, sent.exit = .value (.ok (.error
        ⟨mark, { kind := .unexpected, code := "unexpected", message := "boom" }⟩))) ∧
      sent.trace.journal = ["A-before", "B-before", "A-after"] ∧
      (∃ mark, published.exit = .value (.error (.notificationsFailed "ItemDeleted" [⟨0, mark,
        { kind := .unexpected, code := "unexpected", message := "handler panicked" }⟩]))) ∧
      published.trace.journal = ["C-before", "C-before", "second", "C-after"] := by
  intro r m w sent published
  obtain ⟨hsend, hpublish⟩ := nearest_boundary_catches m
  refine ⟨?_, rfl, ?_, rfl⟩
  · have houter : ∀ link ∈ ([.recording "A", .panicBoundary ⟨.request, "DeleteItem"⟩,
        .recording "B"] : List (Interceptor Unit Catalog.DeleteItem Unit)),
        (∃ topic, link = .panicBoundary topic) ∨ link.Forwards ⟨⟨7⟩⟩ .never := by
      simp only [List.forall_mem_cons, List.not_mem_nil, false_implies, implies_true, and_true]
      exact ⟨.inr (Interceptor.recording_forwards _ _ _), .inl ⟨_, rfl⟩,
        .inr (Interceptor.recording_forwards _ _ _)⟩
    obtain ⟨finishes, v, t, -, -, hcatches⟩ :=
      hsend (k := .delete) (w := w) _ [] rfl rfl houter rfl
    obtain ⟨u, hu, hrun⟩ := hcatches (.text "boom") v [] rfl
    have hcaught := hu.exit_of_boundary (.tail _ (.head _)) rfl
    have hexit : sent.exit = u.exit.map .ok := congrArg Run.exit hrun
    rw [hcaught] at hexit
    exact ⟨v.nextMark, hexit⟩
  · have houter : ∀ link ∈ ([.panicBoundary ⟨.notification, "ItemDeleted"⟩, .recording "C"] :
        List (Interceptor Unit Catalog.ItemDeleted Unit)),
        (∃ topic, link = .panicBoundary topic) ∨ link.Forwards ⟨⟨7⟩⟩ .never := by
      simp only [List.forall_mem_cons, List.not_mem_nil, false_implies, implies_true, and_true]
      exact ⟨.inl ⟨_, rfl⟩, .inr (Interceptor.recording_forwards _ _ _)⟩
    obtain ⟨finishes, v, t, -, -, hcatches⟩ :=
      hpublish (n := .deleted) (w := w) [] _ _ _ [] rfl (.none 0 w) (fun _ => rfl) rfl houter rfl
    obtain ⟨u, hu, -, hgo⟩ := hcatches .other v [] rfl
    have hcaught := hu.exit_of_boundary (.head _) rfl
    exact ⟨v.nextMark, congrArg Run.exit (hgo _ hcaught)⟩

end Mediator

end Switchboard
