import Switchboard.Mediator
import Switchboard.Proofs.Running

/-!
# The passage of a message

A message passes the links of a chain on its way in, turns around somewhere,
and on the way out the links that it passed finish in the reverse order.

- `Passed` is a way in, link by link, and `wayOut` is the way back;
- `Passed.run_chain`: the run of a chain is the way in, the rest of the chain,
  and the way out from however the rest has ended;
- `chain_ends`: every way in ends at the handler, at a link that does not let
  the message go on, or in front of a link because the signal is cancelled;
- `Mediator.run_send`: a call hands back how the chain of its handler has ended.

Neither `Passed` nor `wayOut` mentions the handler or the links that are still
ahead, so what ends in front of them ends the same whatever they are.
-/

namespace Switchboard

variable {σ M R : Type}

/-! ## The way in and the way out -/

/-- What a link that let a message pass still does, from how the rest of the
chain has ended. -/
abbrev Finish (σ R : Type) := Exit (Outcome R) → Action σ (Outcome R)

/-- A message on its way to the next link. -/
structure Stage (σ M : Type) where
  message : M
  signal : Signal
  world : World σ

def Stage.cancelled (s : Stage σ M) : Bool :=
  s.world.sources.isCancelled s.signal

/-- The message passes links, the outermost one first: each is entered under a
signal that is not cancelled, and lets it go on. `last` says whether the handler
comes next after them. Their finishes are kept in the same order. -/
inductive Passed (last : Bool) :
    List (Interceptor σ M R) → Stage σ M → List (Finish σ R) → Stage σ M → Trace → Prop
  | none (s : Stage σ M) : Passed last [] s [] s []
  | next {link : Interceptor σ M R} {rest : List (Interceptor σ M R)} {s s' : Stage σ M}
      {message : M} {signal : Signal} {finish : Finish σ R} {w : World σ}
      {finishes : List (Finish σ R)} {t₁ t₂ : Trace} (hopen : s.cancelled = false)
      (henter : (link.enter s.message s.signal (rest.isEmpty && last)).run s.world =
        ⟨.value (.proceed message signal finish), w, t₁⟩)
      (hrest : Passed last rest ⟨message, signal, w⟩ finishes s' t₂) :
      Passed last (link :: rest) s (finish :: finishes) s' (t₁ ++ t₂)

/-- The way out: the innermost link finishes first, each from how the one
inside of it has ended. -/
def wayOut : List (Finish σ R) → Finish σ R
  | [] => Action.resume
  | finish :: finishes => fun ended => (wayOut finishes ended).attempt >>= finish

theorem isEmpty_append {α : Type} (l l' : List α) :
    (l ++ l').isEmpty = (l.isEmpty && l'.isEmpty) := by
  cases l <;> rfl

/-- What follows an attempt goes on from how it has ended. -/
theorem Action.run_attempt_bind {α β : Type} (a : Action σ α) (f : Exit α → Action σ β)
    (w : World σ) :
    (a.attempt >>= f).run w = ((f (a.run w).exit).run (a.run w).world).after (a.run w).trace :=
  run_bind_of_value (run_attempt a w) f

theorem Action.run_attempt_bind_after {α β : Type} {a b : Action σ α} {w w' : World σ} {t : Trace}
    (h : a.run w = (b.run w').after t) (f : Exit α → Action σ β) :
    (a.attempt >>= f).run w = ((b.attempt >>= f).run w').after t := by
  rw [run_attempt_bind, run_attempt_bind, h]
  exact (Run.after_after _ _ _).symm

theorem run_boundary_open {topic : Topic} {signal : Signal} {w : World σ}
    (h : w.sources.isCancelled signal = false) (link : Action σ (Outcome R)) :
    (boundary topic signal link).run w = link.run w := by
  simp [boundary, h]

/-- The event of a boundary that finds the signal cancelled. -/
def shutEvent (topic : Topic) : Report :=
  .event { level := .debug, message := "Cancelled before next link", fields := [topic.field] }

/-- The failure of a boundary that finds the signal cancelled: a fresh one of
kind `cancelled`. -/
def shutFailure (w : World σ) : Failure :=
  w.fresh { kind := .cancelled, code := "cancelled", message := "operation was cancelled" }

/-- How a chain ends whose first boundary finds the signal cancelled: with that
failure, and without a trace of any link. -/
def shutRun (topic : Topic) (w : World σ) : Run σ (Outcome R) :=
  ⟨.value (.error (shutFailure w)), w.marked, [shutEvent topic]⟩

theorem run_boundary_shut {topic : Topic} {signal : Signal} {w : World σ}
    (h : w.sources.isCancelled signal = true) (link : Action σ (Outcome R)) :
    (boundary topic signal link).run w = shutRun topic w := by
  simp only [boundary, Action.run_isCancelled_bind, h, if_true, Action.run_log_bind]
  rfl

/-- A chain whose signal is cancelled enters none of its links. -/
theorem run_chain_shut {s : Stage σ M} (h : s.cancelled = true) (topic : Topic)
    (handler : Handler σ M R) (links : List (Interceptor σ M R)) :
    (chain topic handler links s.message s.signal).run s.world = shutRun topic s.world := by
  cases links with
  | nil => exact run_boundary_shut h _
  | cons link rest => exact run_boundary_shut h _

theorem run_chain_nil {s : Stage σ M} (h : s.cancelled = false) (topic : Topic)
    (handler : Handler σ M R) :
    (chain topic handler [] s.message s.signal).run s.world =
      (handler s.message s.signal).run s.world :=
  run_boundary_open h _

section Link

variable {link : Interceptor σ M R} {rest : List (Interceptor σ M R)} {s : Stage σ M} {w : World σ}
  {t : Trace}

theorem run_chain_proceeds {message : M} {signal : Signal} {finish : Finish σ R}
    (h : s.cancelled = false)
    (henter : (link.enter s.message s.signal rest.isEmpty).run s.world =
      ⟨.value (.proceed message signal finish), w, t⟩)
    (topic : Topic) (handler : Handler σ M R) :
    (chain topic handler (link :: rest) s.message s.signal).run s.world =
      (((chain topic handler rest message signal).attempt >>= finish).run w).after t := by
  rw [chain, run_boundary_open h, Action.run_bind_of_value henter]

theorem run_chain_answers {o : Outcome R} (h : s.cancelled = false)
    (henter : (link.enter s.message s.signal rest.isEmpty).run s.world =
      ⟨.value (.answer o), w, t⟩)
    (topic : Topic) (handler : Handler σ M R) :
    (chain topic handler (link :: rest) s.message s.signal).run s.world = ⟨.value o, w, t⟩ := by
  rw [chain, run_boundary_open h, Action.run_bind_of_value henter]
  simp

theorem run_chain_breaks {p : Panic} (h : s.cancelled = false)
    (henter : (link.enter s.message s.signal rest.isEmpty).run s.world = ⟨.panicked p, w, t⟩)
    (topic : Topic) (handler : Handler σ M R) :
    (chain topic handler (link :: rest) s.message s.signal).run s.world = ⟨.panicked p, w, t⟩ := by
  rw [chain, run_boundary_open h, Action.run_bind_of_panic henter]

end Link

/-- A chain runs as its rest does from where the message has come to, with the
way in before it and the way out after it. -/
theorem Passed.run_chain {outer inner : List (Interceptor σ M R)} {s s' : Stage σ M}
    {finishes : List (Finish σ R)} {t : Trace}
    (h : Passed inner.isEmpty outer s finishes s' t) (topic : Topic) (handler : Handler σ M R) :
    (chain topic handler (outer ++ inner) s.message s.signal).run s.world =
      (((chain topic handler inner s'.message s'.signal).attempt >>= wayOut finishes).run
        s'.world).after t := by
  induction h with
  | none s =>
      rw [List.nil_append, wayOut]
      exact congrArg (fun a => Run.after [] (Action.run a s.world))
        (Action.attempt_bind_resume _).symm
  | @next link rest s s' message signal finish w finishes t₁ t₂ hopen henter hrest ih =>
      rw [← isEmpty_append] at henter
      have hout (a : Action _ _) :
          (a.attempt >>= wayOut finishes).attempt >>= finish =
            a.attempt >>= wayOut (finish :: finishes) := by
        have hcaught : (a.attempt >>= wayOut finishes).attempt =
            a.attempt >>= fun ended => (wayOut finishes ended).attempt :=
          Action.attempt_bind_attempt a _
        rw [hcaught]
        exact bind_assoc _ _ _
      rw [List.cons_append, run_chain_proceeds hopen henter,
        Action.run_attempt_bind_after ih finish, Run.after_after, hout]

/-- One more link lets the message pass. -/
theorem Passed.snoc {last : Bool} {outer : List (Interceptor σ M R)} {s s' : Stage σ M}
    {finishes : List (Finish σ R)} {t t' : Trace} (h : Passed false outer s finishes s' t)
    {link : Interceptor σ M R} {message : M} {signal : Signal} {finish : Finish σ R} {w : World σ}
    (hopen : s'.cancelled = false)
    (henter : (link.enter s'.message s'.signal last).run s'.world =
      ⟨.value (.proceed message signal finish), w, t'⟩) :
    Passed last (outer ++ [link]) s (finishes ++ [finish]) ⟨message, signal, w⟩ (t ++ t') := by
  induction h with
  | none s =>
      have hlink : Passed last [link] s [finish] ⟨message, signal, w⟩ (t' ++ []) :=
        .next hopen henter (.none _)
      rwa [List.append_nil] at hlink
  | @next first rest s s' _ _ _ _ _ t₁ t₂ hfirst hpasses _ ih =>
      have hflag : ((rest ++ [link]).isEmpty && last) = (rest.isEmpty && false) := by
        simp [isEmpty_append]
      rw [← hflag] at hpasses
      rw [List.append_assoc]
      exact .next hfirst hpasses (ih hopen henter)

/-! ## Where a way in ends -/

/-- How the way in of a message ends. -/
inductive Ending where
  /-- The handler is entered. -/
  | handled
  /-- The next link answers the message itself. -/
  | answered
  /-- The next link panics before it lets the message go on. -/
  | broken
  /-- The signal is cancelled in front of the next link. -/
  | shut
deriving DecidableEq, Repr

/-- How the way in ends at a stage, with the links that are still ahead. -/
inductive Ends : List (Interceptor σ M R) → Stage σ M → Ending → Prop
  | handled {s : Stage σ M} (hopen : s.cancelled = false) : Ends [] s .handled
  | answered {link : Interceptor σ M R} {rest : List (Interceptor σ M R)} {s : Stage σ M}
      {o : Outcome R} {w : World σ} {t : Trace} (hopen : s.cancelled = false)
      (henter : (link.enter s.message s.signal rest.isEmpty).run s.world =
        ⟨.value (.answer o), w, t⟩) :
      Ends (link :: rest) s .answered
  | broken {link : Interceptor σ M R} {rest : List (Interceptor σ M R)} {s : Stage σ M}
      {p : Panic} {w : World σ} {t : Trace} (hopen : s.cancelled = false)
      (henter : (link.enter s.message s.signal rest.isEmpty).run s.world = ⟨.panicked p, w, t⟩) :
      Ends (link :: rest) s .broken
  | shut {links : List (Interceptor σ M R)} {s : Stage σ M} (hshut : s.cancelled = true) :
      Ends links s .shut

/-- Every way in ends somewhere. -/
theorem chain_ends (links : List (Interceptor σ M R)) (s : Stage σ M) :
    ∃ outer inner finishes s' t ending, links = outer ++ inner ∧
      Passed inner.isEmpty outer s finishes s' t ∧ Ends inner s' ending := by
  induction links generalizing s with
  | nil =>
      cases hs : s.cancelled with
      | true => exact ⟨[], [], [], s, [], .shut, rfl, .none s, .shut hs⟩
      | false => exact ⟨[], [], [], s, [], .handled, rfl, .none s, .handled hs⟩
  | cons link rest ih =>
      cases hs : s.cancelled with
      | true => exact ⟨[], link :: rest, [], s, [], .shut, rfl, .none s, .shut hs⟩
      | false =>
          rcases henter : (link.enter s.message s.signal rest.isEmpty).run s.world with
            ⟨exit, w, t₁⟩
          cases exit with
          | panicked p =>
              exact ⟨[], link :: rest, [], s, [], .broken, rfl, .none s, .broken hs henter⟩
          | value verdict =>
              cases verdict with
              | answer o =>
                  exact ⟨[], link :: rest, [], s, [], .answered, rfl, .none s,
                    .answered hs henter⟩
              | proceed message signal finish =>
                  obtain ⟨outer, inner, finishes, s', t₂, ending, rfl, hpassed, hends⟩ :=
                    ih ⟨message, signal, w⟩
                  rw [isEmpty_append] at henter
                  exact ⟨link :: outer, inner, finish :: finishes, s', t₁ ++ t₂, ending, rfl,
                    .next hs henter hpassed, hends⟩

/-- A chain that ends in front of its handler runs the same with any other. -/
theorem Ends.run_chain {links : List (Interceptor σ M R)} {s : Stage σ M} {ending : Ending}
    (h : Ends links s ending) (hending : ending ≠ .handled) (topic : Topic)
    (handler other : Handler σ M R) :
    (chain topic handler links s.message s.signal).run s.world =
      (chain topic other links s.message s.signal).run s.world := by
  cases h with
  | handled hopen => exact absurd rfl hending
  | answered hopen henter => rw [run_chain_answers hopen henter, run_chain_answers hopen henter]
  | broken hopen henter => rw [run_chain_breaks hopen henter, run_chain_breaks hopen henter]
  | shut hshut => rw [run_chain_shut hshut, run_chain_shut hshut]

/-! ## Journals -/

@[simp] theorem Trace.journal_append (t t' : Trace) :
    Trace.journal (t ++ t') = t.journal ++ t'.journal :=
  List.filterMap_append

@[simp] theorem Trace.journal_event (e : Event) (t : Trace) :
    Trace.journal (.event e :: t) = t.journal := rfl

@[simp] theorem Trace.journal_nil : Trace.journal [] = [] := rfl

theorem Trace.journal_inside (span : Span) (t : Trace) :
    Trace.journal (t.map (Report.inside span)) = t.journal := by
  unfold Trace.journal
  rw [List.filterMap_map]
  refine congrArg (List.filterMap · t) (funext fun r => ?_)
  cases r <;> rfl

/-! ## Calls of a mediator -/

namespace Mediator

variable {ρ ν : Type} [Requests ρ] [Messages ν] {m : Mediator σ ρ ν}

/-- What is reported inside the span of a call, as it is seen from outside. -/
def seen (m : Mediator σ ρ ν) (span : Span) (t : Trace) : Trace :=
  if m.config.instrument then t.map (Report.inside span) else t

theorem run_instrumented {α : Type} (span : Span) (a : Action σ α) (w : World σ) :
    (m.instrumented span a).run w =
      { a.run w with trace := m.seen span (a.run w).trace } := by
  unfold instrumented seen
  split
  · exact Action.run_within span a w
  · rfl

theorem seen_append (span : Span) (t t' : Trace) :
    m.seen span (t ++ t') = m.seen span t ++ m.seen span t' := by
  unfold seen
  split
  · exact List.map_append
  · rfl

theorem run_instrumented_after {α : Type} {a b : Action σ α} {w w' : World σ} {t : Trace}
    (h : a.run w = (b.run w').after t) (span : Span) :
    (m.instrumented span a).run w = ((m.instrumented span b).run w').after (m.seen span t) := by
  rw [run_instrumented, run_instrumented, h]
  exact congrArg _ (seen_append span t _)

/-- A span shows in the events only. -/
@[simp] theorem journal_seen (span : Span) (t : Trace) : (m.seen span t).journal = t.journal := by
  unfold seen
  split
  · exact Trace.journal_inside span t
  · rfl

section Send

variable {k : ρ} {request : Body k} {signal : Signal} {handler : RequestHandler σ k}
  {links : List (RequestInterceptor σ k)} {w w₀ w₁ : World σ} {t₀ t₁ : Trace}

/-- The event of a call that has found its handler, with the number of links
around it. -/
def dispatching (k : ρ) (count : Nat) : Report :=
  .event {
    level := .debug
    message := "Dispatching request"
    fields := [(Topic.request k).field, ("behaviors", Decimal.format count)] }

/-- What a call still reports when its chain has ended: nothing after a panic. -/
def completed (k : ρ) : Exit (Outcome (Reply k)) → Trace
  | .value o => [.event {
      level := .debug
      message := "Request completed"
      fields := [(Topic.request k).field, ("ok", if o.isOk then "true" else "false")] }]
  | .panicked _ => []

/-- The run of a call whose chain of `count` links ran as `r`, after lookups that
reported `before`. -/
def sentRun (m : Mediator σ ρ ν) (k : ρ) (before : Trace) (count : Nat)
    (r : Run σ (Outcome (Reply k))) : Run σ (Except DispatchError (Outcome (Reply k))) :=
  ⟨r.exit.map .ok, r.world,
    before ++ dispatching k count :: m.seen (sendSpan k) r.trace ++ completed k r.exit⟩

/-- A call is its lookups and the chain of its handler. -/
theorem run_send_eq (hhandler : (m.lookup.handler k).run w = ⟨.value (.ok handler), w₀, t₀⟩)
    (hlinks : (m.lookup.interceptors k).run w₀ = ⟨.value links, w₁, t₁⟩) :
    (m.send k request signal).run w = m.sentRun k (t₀ ++ t₁) links.length
      ((chain (.request k) handler links request signal).run w₁) := by
  rcases hchain : (chain (.request k) handler links request signal).run w₁ with ⟨exit, w', t⟩
  have hspan : (m.instrumented (sendSpan k)
      (chain (.request k) handler links request signal)).run w₁ =
        ⟨exit, w', m.seen (sendSpan k) t⟩ := by
    rw [run_instrumented, hchain]
  rw [send, Action.run_bind_of_value hhandler]
  simp only [Action.run_bind_of_value hlinks, Action.run_log_bind]
  cases exit with
  | value o =>
      rw [Action.run_bind_of_value hspan, Action.run_log_bind, Action.run_pure]
      simp [sentRun, dispatching, completed]
  | panicked p =>
      rw [Action.run_bind_of_panic hspan]
      simp [sentRun, dispatching, completed]

theorem journal_completed (exit : Exit (Outcome (Reply k))) :
    Trace.journal (completed k exit) = [] := by
  cases exit <;> rfl

/-- A call hands back how its chain has ended; the journal shows the lookups and
the chain. -/
theorem run_send (hhandler : (m.lookup.handler k).run w = ⟨.value (.ok handler), w₀, t₀⟩)
    (hlinks : (m.lookup.interceptors k).run w₀ = ⟨.value links, w₁, t₁⟩)
    {exit : Exit (Outcome (Reply k))} {w' : World σ} {t : Trace}
    (hchain : (chain (.request k) handler links request signal).run w₁ = ⟨exit, w', t⟩) :
    ∃ t', (m.send k request signal).run w = ⟨exit.map .ok, w', t'⟩ ∧
      t'.journal = t₀.journal ++ t₁.journal ++ t.journal := by
  refine ⟨_, (run_send_eq hhandler hlinks).trans (by rw [hchain, sentRun]), ?_⟩
  simp [dispatching, journal_completed]

/-- What a mediator finds in a registry that has one handler for the request type. -/
theorem run_lookups {r : Registry σ ρ ν} (hlookup : m.lookup = r.lookup)
    {only : Registration σ (RequestHandler σ k)} (hone : r.handlers k = [only])
    (hhandler : only.resolve.run w = ⟨.value handler, w₀, t₀⟩)
    (hlinks : (resolveAll (r.interceptors k)).run w₀ = ⟨.value links, w₁, t₁⟩) :
    (m.lookup.handler k).run w = ⟨.value (.ok handler), w₀, t₀⟩ ∧
      (m.lookup.interceptors k).run w₀ = ⟨.value links, w₁, t₁⟩ := by
  rw [hlookup]
  refine ⟨?_, hlinks⟩
  show (r.resolveHandler k).run w = _
  simp only [Registry.resolveHandler, hone]
  rw [Action.run_bind_of_value hhandler, Action.run_pure, Run.after_mk, List.append_nil]

end Send

/-- A delivery is the lookup of the interceptors and the chain of the listener. -/
theorem run_deliver_eq {n : ν} {event : Body n} {signal : Signal}
    {links : List (ListenerInterceptor σ n)} {w w₀ : World σ} {t₀ : Trace}
    (hlinks : (m.lookup.listenerInterceptors n).run w = ⟨.value links, w₀, t₀⟩) (index : Nat)
    (listener : Listener σ n) {exit : Exit (Outcome Unit)} {w' : World σ} {t : Trace}
    (hchain : (chain (.notification n) listener links event signal).run w₀ = ⟨exit, w', t⟩) :
    (m.deliver n event signal index listener).run w =
      ⟨exit, w', t₀ ++ m.seen (publishSpan n index) t⟩ := by
  rw [deliver, Action.run_bind_of_value hlinks, run_instrumented, hchain]
  rfl

end Mediator

end Switchboard
