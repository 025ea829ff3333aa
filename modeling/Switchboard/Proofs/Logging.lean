import Switchboard.Interceptor.Logging
import Switchboard.Proofs.Passage

/-!
# Links that only log

A link that only logs can be put anywhere into a chain, and nothing but the log
shows it. What makes this more than a property of that link is the chain around
it: there is one boundary more, the links behind it stand one place deeper, and
the signal can be cancelled or a panic can be raised at any point.

- `entered`: the stages at which a chain enters its links;
- `chain_past_or_same`: either a message comes past the first links of a chain,
  or it does not matter what is behind them;
- `addsLog`: what a link that only logs adds to the run of a chain.
-/

namespace Switchboard

variable {σ α M R : Type}

/-! ## The links that a chain enters -/

/-- The stages at which a chain enters its links, one after the other, and last
its handler. -/
def entered : List (Interceptor σ M R) → Stage σ M → List (Stage σ M)
  | [], s => if s.cancelled then [] else [s]
  | link :: rest, s =>
    if s.cancelled then []
    else s :: match (link.enter s.message s.signal rest.isEmpty).run s.world with
      | ⟨.value (.proceed message signal _), w, _⟩ => entered rest ⟨message, signal, w⟩
      | _ => []

theorem entered_shut {s : Stage σ M} (h : s.cancelled = true) (links : List (Interceptor σ M R)) :
    entered links s = [] := by
  cases links <;> simp [entered, h]

section

variable {link : Interceptor σ M R} {rest : List (Interceptor σ M R)} {s : Stage σ M}
  {w : World σ} {t : Trace}

theorem entered_proceeds {message : M} {signal : Signal} {finish : Finish σ R}
    (h : s.cancelled = false)
    (henter : (link.enter s.message s.signal rest.isEmpty).run s.world =
      ⟨.value (.proceed message signal finish), w, t⟩) :
    entered (link :: rest) s = s :: entered rest ⟨message, signal, w⟩ := by
  simp [entered, h, henter]

theorem entered_answers {o : Outcome R} (h : s.cancelled = false)
    (henter : (link.enter s.message s.signal rest.isEmpty).run s.world =
      ⟨.value (.answer o), w, t⟩) :
    entered (link :: rest) s = [s] := by
  simp [entered, h, henter]

theorem entered_breaks {p : Panic} (h : s.cancelled = false)
    (henter : (link.enter s.message s.signal rest.isEmpty).run s.world = ⟨.panicked p, w, t⟩) :
    entered (link :: rest) s = [s] := by
  simp [entered, h, henter]

end

/-! ## What is behind the first links of a chain -/

/-- Does the same whether or not the handler is the next link. -/
def Interceptor.Blind (link : Interceptor σ M R) : Prop :=
  ∀ message signal handlerNext,
    link.enter message signal handlerNext = link.enter message signal false

theorem Passed.of_blind {last : Bool} {outer : List (Interceptor σ M R)} {s s' : Stage σ M}
    {finishes : List (Finish σ R)} {t : Trace} (h : Passed last outer s finishes s' t)
    (hblind : ∀ link ∈ outer, link.Blind) (last' : Bool) :
    Passed last' outer s finishes s' t := by
  induction h with
  | none s => exact .none s
  | @next link rest s s' message signal finish w finishes t₁ t₂ hopen henter _ ih =>
      have hlink : link.Blind := hblind link List.mem_cons_self
      rw [hlink] at henter
      rw [← hlink _ _ (rest.isEmpty && last')] at henter
      exact .next hopen henter (ih fun later hlater => hblind later (List.mem_cons_of_mem _ hlater))

/-- The links that a message passes are entered, and then those behind them. -/
theorem Passed.entered {last : Bool} {outer : List (Interceptor σ M R)} {s s' : Stage σ M}
    {finishes : List (Finish σ R)} {t : Trace} (h : Passed last outer s finishes s' t)
    (hblind : ∀ link ∈ outer, link.Blind) :
    ∃ stages, stages.length = outer.length ∧ ∀ inner : List (Interceptor σ M R),
      Switchboard.entered (outer ++ inner) s = stages ++ Switchboard.entered inner s' := by
  induction h with
  | none s => exact ⟨[], rfl, fun _ => rfl⟩
  | @next link rest s s' message signal finish w finishes t₁ t₂ hopen henter _ ih =>
      obtain ⟨stages, hlength, hentered⟩ :=
        ih fun later hlater => hblind later (List.mem_cons_of_mem _ hlater)
      refine ⟨s :: stages, congrArg (· + 1) hlength, fun inner => ?_⟩
      have hlink : link.Blind := hblind link List.mem_cons_self
      rw [hlink, ← hlink _ _ (rest ++ inner).isEmpty] at henter
      rw [List.cons_append, entered_proceeds hopen henter, hentered, List.cons_append]

/-- The chain runs the same with anything behind the links `outer`, and enters the
same links, none of which is behind them. -/
def SameBehind (outer : List (Interceptor σ M R)) (s : Stage σ M) : Prop :=
  ∃ (run : Topic → Run σ (Outcome R)) (stages : List (Stage σ M)),
    stages.length ≤ outer.length ∧ ∀ behind,
      (∀ topic handler, (chain topic handler (outer ++ behind) s.message s.signal).run s.world =
        run topic) ∧
      entered (outer ++ behind) s = stages

theorem SameBehind.of_shut {s : Stage σ M} (hs : s.cancelled = true)
    (outer : List (Interceptor σ M R)) : SameBehind outer s :=
  ⟨fun topic => shutRun topic s.world, [], Nat.zero_le _, fun _ =>
    ⟨fun topic handler => run_chain_shut hs topic handler _, entered_shut hs _⟩⟩

/-- Either a message comes past the first links of a chain and finds the next
boundary open, or it does not matter what is behind them. -/
theorem chain_past_or_same {outer : List (Interceptor σ M R)} (hblind : ∀ link ∈ outer, link.Blind)
    (s : Stage σ M) :
    (∃ finishes s' t, Passed false outer s finishes s' t ∧ s'.cancelled = false) ∨
      SameBehind outer s := by
  induction outer generalizing s with
  | nil =>
      cases hs : s.cancelled with
      | true => exact .inr (.of_shut hs _)
      | false => exact .inl ⟨[], s, [], .none s, hs⟩
  | cons link rest ih =>
      have hrest : ∀ later ∈ rest, later.Blind :=
        fun later hlater => hblind later (List.mem_cons_of_mem _ hlater)
      cases hs : s.cancelled with
      | true => exact .inr (.of_shut hs _)
      | false =>
          rcases henter : (link.enter s.message s.signal false).run s.world with ⟨exit, w, t⟩
          have hflag (flag : Bool) : (link.enter s.message s.signal flag).run s.world =
              ⟨exit, w, t⟩ := by rw [hblind link List.mem_cons_self, henter]
          cases exit with
          | panicked p =>
              exact .inr ⟨fun _ => ⟨.panicked p, w, t⟩, [s], Nat.le_add_left 1 _, fun _ =>
                ⟨run_chain_breaks hs (hflag _), entered_breaks hs (hflag _)⟩⟩
          | value verdict =>
              cases verdict with
              | answer o =>
                  exact .inr ⟨fun _ => ⟨.value o, w, t⟩, [s], Nat.le_add_left 1 _, fun _ =>
                    ⟨run_chain_answers hs (hflag _), entered_answers hs (hflag _)⟩⟩
              | proceed message signal finish =>
                  rcases ih hrest ⟨message, signal, w⟩ with
                    ⟨finishes, s', t', hpassed, hs'⟩ | ⟨run, stages, hlength, hsame⟩
                  · exact .inl ⟨finish :: finishes, s', t ++ t', .next hs (hflag _) hpassed, hs'⟩
                  · refine .inr ⟨fun topic => (((finish (run topic).exit).run
                      (run topic).world).after (run topic).trace).after t, s :: stages,
                      Nat.succ_le_succ hlength, fun behind => ⟨fun topic handler => ?_, ?_⟩⟩
                    · rw [List.cons_append, run_chain_proceeds hs (hflag _),
                        Action.run_attempt_bind, (hsame behind).1 topic handler]
                    · rw [List.cons_append, entered_proceeds hs (hflag _), (hsame behind).2]

/-! ## A link that only logs -/

/-- The run ends the same way, in the same world and with the same journal. -/
structure Run.SameButLog (r r' : Run σ α) : Prop where
  exit : r.exit = r'.exit
  world : r.world = r'.world
  journal : r.trace.journal = r'.trace.journal

/-- What a link logs: an event for a message on its way in, and one for an outcome
on its way out. -/
structure LogPair (M R : Type) where
  opening : M → Event
  closing : Outcome R → Event

/-- What is logged when the rest of the chain has ended: nothing after a panic. -/
def LogPair.ended (l : LogPair M R) : Exit (Outcome R) → Trace
  | .value o => [.event (l.closing o)]
  | .panicked _ => []

@[simp] theorem LogPair.journal_ended (l : LogPair M R) (exit : Exit (Outcome R)) :
    (l.ended exit).journal = [] := by
  cases exit <;> rfl

namespace Interceptor

/-- Lets every message through as it is and hands on as it is however the rest of
the chain has ended. It logs what it sees and leaves nothing else behind. -/
def OnlyLogs (link : Interceptor σ M R) (l : LogPair M R) : Prop :=
  ∀ message signal handlerNext, ∃ finish : Finish σ R,
    (∀ w, (link.enter message signal handlerNext).run w =
      ⟨.value (.proceed message signal finish), w, [.event (l.opening message)]⟩) ∧
    ∀ exit w, (finish exit).run w = ⟨exit, w, l.ended exit⟩

/-- What is logged about a request. -/
def requestLog {κ : Type} [Requests κ] (k : κ) : LogPair (Body k) (Reply k) where
  opening request := {
    level := .debug
    message := "Handling request"
    fields := [(Topic.request k).field, ("request", Messages.describe k request)] }
  closing
    | .ok _ => {
        level := .info, message := "Request handled", fields := [(Topic.request k).field] }
    | .error e => {
        level := .warn
        message := "Request failed"
        fields := [(Topic.request k).field, ("code", e.code), ("error", e.format)] }

/-- What is logged about a notification and each of its listeners. -/
def notificationLog {κ : Type} [Messages κ] (k : κ) : LogPair (Body k) Unit where
  opening notification := {
    level := .debug
    message := "Handling notification"
    fields := [(Topic.notification k).field, ("notification", Messages.describe k notification)] }
  closing
    | .ok _ => {
        level := .info
        message := "Notification handled"
        fields := [(Topic.notification k).field] }
    | .error e => {
        level := .warn
        message := "Notification handler failed"
        fields := [(Topic.notification k).field, ("error", e.format)] }

theorem logging_onlyLogs {κ : Type} [Requests κ] (k : κ) :
    (logging k : Interceptor σ (Body k) (Reply k)).OnlyLogs (requestLog k) := by
  intro request signal handlerNext
  refine ⟨_, fun w => rfl, fun exit w => ?_⟩
  rcases exit with (_ | _) | _ <;> rfl

theorem listenerLogging_onlyLogs {κ : Type} [Messages κ] (k : κ) :
    (listenerLogging k : Interceptor σ (Body k) Unit).OnlyLogs (notificationLog k) := by
  intro notification signal handlerNext
  refine ⟨_, fun w => rfl, fun exit w => ?_⟩
  rcases exit with (_ | _) | _ <;> rfl

/-- A link that only logs, with the rest of the chain behind it. -/
theorem OnlyLogs.run_chain {link : Interceptor σ M R} {l : LogPair M R} (h : link.OnlyLogs l)
    {s : Stage σ M} (hopen : s.cancelled = false) (topic : Topic) (handler : Handler σ M R)
    (inner : List (Interceptor σ M R)) {exit : Exit (Outcome R)} {w : World σ} {t : Trace}
    (hinner : (chain topic handler inner s.message s.signal).run s.world = ⟨exit, w, t⟩) :
    (chain topic handler (link :: inner) s.message s.signal).run s.world =
      ⟨exit, w, .event (l.opening s.message) :: t ++ l.ended exit⟩ := by
  obtain ⟨finish, henter, hfinish⟩ := h s.message s.signal inner.isEmpty
  rw [run_chain_proceeds hopen (henter s.world), Action.run_attempt_bind, hinner, hfinish]
  rfl

theorem OnlyLogs.entered {link : Interceptor σ M R} {l : LogPair M R} (h : link.OnlyLogs l)
    {s : Stage σ M} (hopen : s.cancelled = false) (inner : List (Interceptor σ M R)) :
    Switchboard.entered (link :: inner) s = s :: Switchboard.entered inner s := by
  obtain ⟨finish, henter, -⟩ := h s.message s.signal inner.isEmpty
  rw [entered_proceeds hopen (henter s.world)]

end Interceptor

/-- What a chain that is started at the stage `s` does with a link between `outer`
and `inner`, against what it does without it. -/
structure AddsLog (l : LogPair M R) (link : Interceptor σ M R) (topic : Topic)
    (handler : Handler σ M R) (outer inner : List (Interceptor σ M R)) (s : Stage σ M) : Prop where
  same : ((chain topic handler (outer ++ inner) s.message s.signal).run s.world).SameButLog
    ((chain topic handler (outer ++ link :: inner) s.message s.signal).run s.world)
  /-- It enters the other links at the same stages, in the same order. -/
  entered : (entered (outer ++ link :: inner) s).eraseIdx outer.length = entered (outer ++ inner) s
  /-- If the message comes to the link, with a signal that is not cancelled, then its
  two events stand around what the deeper part reports, or the first one in front of
  it if that panics. -/
  reached : ∀ finishes s' t, Passed false outer s finishes s' t → s'.cancelled = false →
    ∃ after, ∀ deeper, (chain topic handler inner s'.message s'.signal).run s'.world = deeper →
      ((chain topic handler (outer ++ inner) s.message s.signal).run s.world).trace =
        t ++ deeper.trace ++ after ∧
      ((chain topic handler (outer ++ link :: inner) s.message s.signal).run s.world).trace =
        t ++ (.event (l.opening s'.message) :: deeper.trace ++ l.ended deeper.exit) ++ after
  /-- If it does not come there, or its signal is cancelled there, nothing is logged. -/
  unreached : (∀ finishes s' t, Passed false outer s finishes s' t → s'.cancelled = true) →
    ((chain topic handler (outer ++ link :: inner) s.message s.signal).run s.world).trace =
      ((chain topic handler (outer ++ inner) s.message s.signal).run s.world).trace

section

variable {link : Interceptor σ M R} {l : LogPair M R} {outer inner : List (Interceptor σ M R)}
  {topic : Topic} {handler : Handler σ M R} {s s' : Stage σ M} {finishes : List (Finish σ R)}
  {t : Trace}

/-- The runs with the link and without it, for a message that comes to it. -/
theorem Interceptor.OnlyLogs.runs (hlink : link.OnlyLogs l) (hblind : ∀ other ∈ outer, other.Blind)
    (hpassed : Passed false outer s finishes s' t) (hopen : s'.cancelled = false)
    {ended : Exit (Outcome R)} {v : World σ} {t' : Trace}
    (hdeeper : (chain topic handler inner s'.message s'.signal).run s'.world = ⟨ended, v, t'⟩) :
    (chain topic handler (outer ++ inner) s.message s.signal).run s.world =
        ((wayOut finishes ended).run v).after (t ++ t') ∧
      (chain topic handler (outer ++ link :: inner) s.message s.signal).run s.world =
        ((wayOut finishes ended).run v).after
          (t ++ (.event (l.opening s'.message) :: t' ++ l.ended ended)) := by
  have hplain : Passed inner.isEmpty outer s finishes s' t := hpassed.of_blind hblind _
  have hlogged : Passed (link :: inner).isEmpty outer s finishes s' t := hpassed
  constructor
  · rw [hplain.run_chain topic handler, Action.run_attempt_bind, hdeeper, Run.after_after]
  · rw [hlogged.run_chain topic handler, Action.run_attempt_bind,
      hlink.run_chain hopen topic handler inner hdeeper, Run.after_after]

/-- A link that only logs adds its events to a chain, wherever it stands, and
nothing else, as long as the links outside of it do not ask what comes next. -/
theorem addsLog (hlink : link.OnlyLogs l) (hblind : ∀ other ∈ outer, other.Blind) (topic : Topic)
    (handler : Handler σ M R) (inner : List (Interceptor σ M R)) (s : Stage σ M) :
    AddsLog l link topic handler outer inner s := by
  have hreached : ∀ finishes s' t, Passed false outer s finishes s' t → s'.cancelled = false →
      ∃ after, ∀ deeper, (chain topic handler inner s'.message s'.signal).run s'.world = deeper →
        ((chain topic handler (outer ++ inner) s.message s.signal).run s.world).trace =
          t ++ deeper.trace ++ after ∧
        ((chain topic handler (outer ++ link :: inner) s.message s.signal).run s.world).trace =
          t ++ (.event (l.opening s'.message) :: deeper.trace ++ l.ended deeper.exit) ++ after := by
    intro finishes s' t hpassed hopen
    rcases hdeeper : (chain topic handler inner s'.message s'.signal).run s'.world with
      ⟨ended, v, t'⟩
    obtain ⟨hplain, hlogged⟩ := hlink.runs hblind hpassed hopen hdeeper
    refine ⟨((wayOut finishes ended).run v).trace, fun deeper hdeeper' => ?_⟩
    subst hdeeper'
    rw [hplain, hlogged]
    exact ⟨rfl, rfl⟩
  rcases chain_past_or_same hblind s with ⟨finishes, s', t, hpassed, hopen⟩ | ⟨run, stages, hsame⟩
  · rcases hdeeper : (chain topic handler inner s'.message s'.signal).run s'.world with
      ⟨ended, v, t'⟩
    obtain ⟨hplain, hlogged⟩ := hlink.runs hblind hpassed hopen hdeeper
    refine ⟨?_, ?_, hreached, fun hunreached => ?_⟩
    · rw [hplain, hlogged]
      exact ⟨rfl, rfl, by simp [Run.after]⟩
    · obtain ⟨stages, hlength, hstages⟩ := hpassed.entered hblind
      rw [hstages, hstages, hlink.entered hopen, ← hlength, List.eraseIdx_append_of_length_le
        (Nat.le_refl _), Nat.sub_self, List.eraseIdx_cons_zero]
    · cases hopen.symm.trans (hunreached finishes s' t hpassed)
  · obtain ⟨hlength, hsame⟩ := hsame
    have hlogged := hsame (link :: inner)
    have hplain := hsame inner
    refine ⟨?_, ?_, hreached, fun _ => ?_⟩
    · rw [hlogged.1, hplain.1]
      exact ⟨rfl, rfl, rfl⟩
    · rw [hlogged.2, hplain.2, List.eraseIdx_of_length_le hlength]
    · rw [hlogged.1, hplain.1]

end

end Switchboard
