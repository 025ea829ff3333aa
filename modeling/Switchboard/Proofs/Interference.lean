import Switchboard.Interceptor.Logging
import Switchboard.Interceptor.PanicBoundary
import Switchboard.Interceptor.Validation
import Switchboard.Mediator
import Switchboard.Proofs.Running

/-!
# Actions under interference

While an action runs, others may cancel the signals that it observes, at any
point and between any two of its observations. `Action.Ensures` is what can be
relied on all the same: whatever every observation answers, the states that the
action comes through and the one that it ends in are as stated. It is put
together as actions are, so each building block has one rule here.

`Disturbed` weaves steps of others into an action; `Ensures.disturbed` says that
they take nothing away from what it ensures, and `Ensures.worlds` that all worlds
of its run are as stated.
-/

namespace Switchboard

variable {σ α β M R : Type}

namespace Action

/-- From the state `s` on, whatever is observed of any signal: the action comes through
states with `I` only, the first and the last one included, and its end and the
state that it leaves are as `Q` says. -/
def Ensures (I : σ → Prop) (Q : Exit α → σ → Prop) : Action σ α → σ → Prop
  | done a, s => I s ∧ Q (.value a) s
  | panic p, s => I s ∧ Q (.panicked p) s
  | report _ rest, s => rest.Ensures I Q s
  | get rest, s => (rest s).Ensures I Q s
  | put s' rest, s => I s ∧ rest.Ensures I Q s'
  | make c rest, s => ∀ mark, (rest ⟨mark, c⟩).Ensures I Q s
  | observe _ rest, s => ∀ cancelled, (rest cancelled).Ensures I Q s
  | cancel _ rest, s => rest.Ensures I Q s
  | drop _ rest, s => rest.Ensures I Q s
  | suspend rest, s => rest.Ensures I Q s

variable {I : σ → Prop} {Q Q' : Exit α → σ → Prop} {a : Action σ α} {s : σ}

theorem Ensures.start (h : a.Ensures I Q s) : I s := by
  induction a with
  | done _ | panic _ | put _ _ _ => exact h.1
  | report _ _ ih | cancel _ _ ih | drop _ _ ih | suspend _ ih => exact ih h
  | get _ ih => exact ih s h
  | make _ _ ih => exact ih ⟨0, _⟩ (h 0)
  | observe _ _ ih => exact ih true (h true)

theorem Ensures.mono (h : a.Ensures I Q s) (hQ : ∀ exit s, I s → Q exit s → Q' exit s) :
    a.Ensures I Q' s := by
  induction a generalizing s with
  | done _ | panic _ => exact ⟨h.1, hQ _ s h.1 h.2⟩
  | put _ _ ih => exact ⟨h.1, ih h.2⟩
  | report _ _ ih | cancel _ _ ih | drop _ _ ih | suspend _ ih => exact ih h
  | get _ ih => exact ih s h
  | make _ _ ih => exact fun mark => ih _ (h mark)
  | observe _ _ ih => exact fun cancelled => ih _ (h cancelled)

/-! ## Sequencing -/

/-- What has to be ensured by the rest of a sequence. -/
def Then (I : σ → Prop) (f : α → Action σ β) (Q : Exit β → σ → Prop) : Exit α → σ → Prop
  | .value x, s => (f x).Ensures I Q s
  | .panicked p, s => Q (.panicked p) s

@[simp] theorem then_value {f : α → Action σ β} {Q : Exit β → σ → Prop} {x : α} :
    Then I f Q (.value x) s ↔ (f x).Ensures I Q s :=
  Iff.rfl

theorem ensures_bind {f : α → Action σ β} {Q : Exit β → σ → Prop} :
    (a >>= f).Ensures I Q s ↔ a.Ensures I (Then I f Q) s := by
  induction a generalizing s with
  | done x =>
      show (f x).Ensures I Q s ↔ I s ∧ (f x).Ensures I Q s
      exact ⟨fun h => ⟨h.start, h⟩, And.right⟩
  | panic p => rfl
  | put s' rest ih => exact and_congr_right fun _ => ih
  | report _ _ ih | cancel _ _ ih | drop _ _ ih | suspend _ ih => exact ih
  | get _ ih => exact ih s
  | make _ _ ih => exact forall_congr' fun mark => ih _
  | observe _ _ ih => exact forall_congr' fun cancelled => ih _

theorem ensures_attempt {Q : Exit (Exit α) → σ → Prop} :
    a.attempt.Ensures I Q s ↔ a.Ensures I (fun exit => Q (.value exit)) s := by
  induction a generalizing s with
  | done _ | panic _ => rfl
  | put _ _ ih => exact and_congr_right fun _ => ih
  | report _ _ ih | cancel _ _ ih | drop _ _ ih | suspend _ ih => exact ih
  | get _ ih => exact ih s
  | make _ _ ih => exact forall_congr' fun mark => ih _
  | observe _ _ ih => exact forall_congr' fun cancelled => ih _

theorem ensures_within {span : Span} : (a.within span).Ensures I Q s ↔ a.Ensures I Q s := by
  induction a generalizing s with
  | done _ | panic _ => rfl
  | put _ _ ih => exact and_congr_right fun _ => ih
  | report _ _ ih | cancel _ _ ih | drop _ _ ih | suspend _ ih => exact ih
  | get _ ih => exact ih s
  | make _ _ ih => exact forall_congr' fun mark => ih _
  | observe _ _ ih => exact forall_congr' fun cancelled => ih _

/-! ## Interference -/

/-- The second action is the first one with steps of others woven in: at any point, and
any number of times, a source is cancelled or dropped. -/
inductive Disturbed : Action σ α → Action σ α → Prop
  | done (x : α) : Disturbed (done x) (done x)
  | panic (p : Panic) : Disturbed (panic p) (panic p)
  | report {rest rest' : Action σ α} (r : Report) (h : Disturbed rest rest') :
      Disturbed (report r rest) (report r rest')
  | get {rest rest' : σ → Action σ α} (h : ∀ s, Disturbed (rest s) (rest' s)) :
      Disturbed (get rest) (get rest')
  | put {rest rest' : Action σ α} (s : σ) (h : Disturbed rest rest') :
      Disturbed (put s rest) (put s rest')
  | make {rest rest' : Failure → Action σ α} (c : Failure.Cause)
      (h : ∀ f, Disturbed (rest f) (rest' f)) : Disturbed (make c rest) (make c rest')
  | observe {rest rest' : Bool → Action σ α} (signal : Signal)
      (h : ∀ cancelled, Disturbed (rest cancelled) (rest' cancelled)) :
      Disturbed (observe signal rest) (observe signal rest')
  | cancel {rest rest' : Action σ α} (id : SourceId) (h : Disturbed rest rest') :
      Disturbed (cancel id rest) (cancel id rest')
  | drop {rest rest' : Action σ α} (id : SourceId) (h : Disturbed rest rest') :
      Disturbed (drop id rest) (drop id rest')
  | suspend {rest rest' : Action σ α} (h : Disturbed rest rest') :
      Disturbed (suspend rest) (suspend rest')
  /-- Somebody else cancels a source. -/
  | cancelled {a a' : Action σ α} (id : SourceId) (h : Disturbed a a') :
      Disturbed a (.cancel id a')
  /-- Somebody else drops a source. -/
  | dropped {a a' : Action σ α} (id : SourceId) (h : Disturbed a a') :
      Disturbed a (.drop id a')

/-- The others may as well do nothing. -/
theorem Disturbed.refl (a : Action σ α) : a.Disturbed a := by
  induction a with
  | done x => exact .done x
  | panic p => exact .panic p
  | report r _ ih => exact .report r ih
  | get _ ih => exact .get ih
  | put s _ ih => exact .put s ih
  | make c _ ih => exact .make c ih
  | observe signal _ ih => exact .observe signal ih
  | cancel id _ ih => exact .cancel id ih
  | drop id _ ih => exact .drop id ih
  | suspend _ ih => exact .suspend ih

theorem Ensures.disturbed {a' : Action σ α} (h : a.Ensures I Q s) (hdisturbed : a.Disturbed a') :
    a'.Ensures I Q s := by
  induction hdisturbed generalizing s with
  | done _ | panic _ => exact h
  | put _ _ ih => exact ⟨h.1, ih h.2⟩
  | report _ _ ih | cancel _ _ ih | drop _ _ ih | suspend _ ih => exact ih h
  | get _ ih => exact ih s h
  | make _ _ ih => exact fun mark => ih _ (h mark)
  | observe _ _ ih => exact fun cancelled => ih _ (h cancelled)
  -- the state is not touched by what the others do
  | cancelled _ _ ih | dropped _ _ ih => exact ih h

theorem Ensures.worlds {w : World σ} (h : a.Ensures I Q w.state) :
    ∀ v ∈ a.worlds w, I v.state := by
  induction a generalizing w with
  | done _ | panic _ => exact List.forall_mem_singleton.mpr h.1
  | put _ _ ih => exact List.forall_mem_cons.mpr ⟨h.1, ih h.2⟩
  | report _ _ ih | cancel _ _ ih | drop _ _ ih | suspend _ ih =>
      exact List.forall_mem_cons.mpr ⟨h.start, ih h⟩
  | get _ ih => exact List.forall_mem_cons.mpr ⟨h.start, ih w.state h⟩
  | make _ _ ih => exact List.forall_mem_cons.mpr ⟨h.start, ih _ (h w.nextMark)⟩
  | observe sig _ ih =>
      exact List.forall_mem_cons.mpr ⟨h.start, ih _ (h (w.sources.isCancelled sig))⟩

theorem Ensures.run {w : World σ} (h : a.Ensures I Q w.state) :
    Q (a.run w).exit (a.run w).world.state := by
  induction a generalizing w with
  | done _ | panic _ => exact h.2
  | put _ _ ih => exact ih h.2
  | report _ _ ih | cancel _ _ ih | drop _ _ ih | suspend _ ih => exact ih h
  | get _ ih => exact ih w.state h
  | make _ _ ih => exact ih _ (h w.nextMark)
  | observe sig _ ih => exact ih _ (h (w.sources.isCancelled sig))

/-! ## Single steps -/

section

variable {x : α}

@[simp] theorem ensures_pure : (pure x : Action σ α).Ensures I Q s ↔ I s ∧ Q (.value x) s :=
  Iff.rfl

@[simp] theorem ensures_fail {c : Failure.Cause} {Q : Exit (Outcome α) → σ → Prop} :
    (fail c).Ensures I Q s ↔ ∀ mark, I s ∧ Q (.value (.error ⟨mark, c⟩)) s :=
  Iff.rfl

@[simp] theorem ensures_log {level : Level} {message : String} {fields : List Field}
    {Q : Exit Unit → σ → Prop} : (log level message fields).Ensures I Q s ↔ I s ∧ Q (.value ()) s :=
  Iff.rfl

@[simp] theorem ensures_fail_bind {c : Failure.Cause} {f : Outcome α → Action σ β}
    {Q : Exit β → σ → Prop} :
    (fail c >>= f).Ensures I Q s ↔ ∀ mark, (f (.error ⟨mark, c⟩)).Ensures I Q s :=
  Iff.rfl

variable {f : Unit → Action σ α}

@[simp] theorem ensures_log_bind {level : Level} {message : String} {fields : List Field} :
    (log level message fields >>= f).Ensures I Q s ↔ (f ()).Ensures I Q s :=
  Iff.rfl

@[simp] theorem ensures_modifyState_bind {g : σ → σ} :
    (modifyState g >>= f).Ensures I Q s ↔ I s ∧ (f ()).Ensures I Q (g s) :=
  Iff.rfl

@[simp] theorem ensures_state_bind {f : σ → Action σ α} :
    (state >>= f).Ensures I Q s ↔ (f s).Ensures I Q s :=
  Iff.rfl

@[simp] theorem ensures_isCancelled_bind {signal : Signal} {f : Bool → Action σ α} :
    (isCancelled signal >>= f).Ensures I Q s ↔ ∀ cancelled, (f cancelled).Ensures I Q s :=
  Iff.rfl

/-- A check may succeed, and it may fail with any mark. -/
theorem ensures_check_bind {signal : Signal} {f : Outcome Unit → Action σ α} :
    (check signal >>= f).Ensures I Q s ↔
      (f (.ok ())).Ensures I Q s ∧ ∀ mark, (f (.error ⟨mark, .cancelled⟩)).Ensures I Q s :=
  Bool.forall_bool

end

end Action

/-! ## Chains -/

section

variable {I : σ → Prop} {Q : Exit (Outcome R) → σ → Prop} {s : σ} {topic : Topic} {signal : Signal}

/-- A boundary may be shut. -/
theorem ensures_boundary {link : Action σ (Outcome R)}
    (hshut : ∀ mark, Q (.value (.error ⟨mark, .cancelled⟩)) s) (h : link.Ensures I Q s) :
    (boundary topic signal link).Ensures I Q s := by
  rw [boundary, Action.ensures_isCancelled_bind, Bool.forall_bool]
  refine ⟨h, ?_⟩
  show (Action.log _ _ _ >>= fun _ => Action.fail .cancelled).Ensures I Q s
  rw [Action.ensures_log_bind, Action.ensures_fail]
  exact fun mark => ⟨h.start, hshut mark⟩

variable {handler : Handler σ M R} {message : M} {rest : List (Interceptor σ M R)}

theorem ensures_chain_nil (hshut : ∀ mark, Q (.value (.error ⟨mark, .cancelled⟩)) s)
    (h : (handler message signal).Ensures I Q s) :
    (chain topic handler [] message signal).Ensures I Q s :=
  ensures_boundary hshut h

/-- A link that lets the message go on as it is, without a look at the state, and finishes
from what the rest of the chain ended with. -/
theorem ensures_chain_forward {link : Interceptor σ M R}
    (finish : Exit (Outcome R) → Action σ (Outcome R))
    (hshut : ∀ mark, Q (.value (.error ⟨mark, .cancelled⟩)) s)
    (henter : ∀ f : Verdict σ M R → Action σ (Outcome R),
      (f (.proceed message signal finish)).Ensures I Q s →
      (link.enter message signal rest.isEmpty >>= f).Ensures I Q s)
    (h : (chain topic handler rest message signal).Ensures I
      (fun exit s => (finish exit).Ensures I Q s) s) :
    (chain topic handler (link :: rest) message signal).Ensures I Q s := by
  rw [chain]
  refine ensures_boundary hshut (henter _ ?_)
  rw [Action.ensures_bind, Action.ensures_attempt]
  exact h

theorem Verdict.forward_pure {message : M} {signal : Signal} :
    (Verdict.forward message signal pure : Verdict σ M R) =
      .proceed message signal Action.resume := by
  refine congrArg (Verdict.proceed message signal) (funext fun exit => ?_)
  cases exit <;> rfl

theorem ensures_chain_validation {validate : Interceptor.Validator M} {topic' : Topic}
    (hshut : ∀ mark, Q (.value (.error ⟨mark, .cancelled⟩)) s)
    (hinvalid : validate message ≠ [] →
      I s ∧ ∀ mark, Q (.value (.error ⟨mark, .validation (validate message)⟩)) s)
    (hvalid : validate message = [] → (chain topic handler rest message signal).Ensures I Q s) :
    (chain topic handler (.validation topic' validate :: rest) message signal).Ensures I Q s := by
  cases hfound : validate message with
  | nil =>
      refine ensures_chain_forward Action.resume hshut
        (fun f hf => ?_) ((hvalid hfound).mono fun exit s hs hQ => ?_)
      · simp only [Interceptor.validation, hfound, pure_bind, Verdict.forward_pure]
        exact hf
      · cases exit <;> exact ⟨hs, hQ⟩
  | cons e es =>
      obtain ⟨hs, hQ⟩ := hinvalid (by rw [hfound]; exact List.cons_ne_nil e es)
      rw [hfound] at hQ
      rw [chain]
      refine ensures_boundary hshut ?_
      simp only [Interceptor.validation, hfound, bind_assoc, Action.ensures_log_bind]
      exact fun mark => ⟨hs, hQ mark⟩

/-- Ends with a value, in a state with `J`. -/
def Quiet {α : Type} (J : σ → Prop) : Exit α → σ → Prop :=
  fun exit s => (∃ x, exit = .value x) ∧ J s

theorem ensures_chain_panicBoundary {J : σ → Prop} {topic' : Topic} (hJ : J s)
    (h : (chain topic handler rest message signal).Ensures I (fun _ => J) s) :
    (chain topic handler (.panicBoundary topic' :: rest) message signal).Ensures I (Quiet J) s := by
  refine ensures_chain_forward _ (fun mark => ⟨⟨_, rfl⟩, hJ⟩) (fun f hf => hf)
    (h.mono fun exit s hs hJ => ?_)
  cases exit with
  | value o => exact ⟨hs, ⟨_, rfl⟩, hJ⟩
  | panicked p => exact fun mark => ⟨hs, ⟨_, rfl⟩, hJ⟩

end

section

variable {κ : Type} {I : σ → Prop} {s : σ} {topic : Topic} {signal : Signal}

theorem ensures_chain_logging [Requests κ] {k : κ} {handler : Handler σ (Body k) (Reply k)}
    {request : Body k} {rest : List (Interceptor σ (Body k) (Reply k))}
    {Q : Exit (Outcome (Reply k)) → σ → Prop}
    (hshut : ∀ mark, Q (.value (.error ⟨mark, .cancelled⟩)) s)
    (h : (chain topic handler rest request signal).Ensures I Q s) :
    (chain topic handler (.logging k :: rest) request signal).Ensures I Q s := by
  refine ensures_chain_forward _ hshut (fun f hf => hf) (h.mono fun exit s hs hQ => ?_)
  rcases exit with (e | r) | p <;> exact ⟨hs, hQ⟩

theorem ensures_chain_listenerLogging [Messages κ] {k : κ} {handler : Handler σ (Body k) Unit}
    {event : Body k} {rest : List (Interceptor σ (Body k) Unit)}
    {Q : Exit (Outcome Unit) → σ → Prop}
    (hshut : ∀ mark, Q (.value (.error ⟨mark, .cancelled⟩)) s)
    (h : (chain topic handler rest event signal).Ensures I Q s) :
    (chain topic handler (.listenerLogging k :: rest) event signal).Ensures I Q s := by
  refine ensures_chain_forward _ hshut (fun f hf => hf) (h.mono fun exit s hs hQ => ?_)
  rcases exit with (e | r) | p <;> exact ⟨hs, hQ⟩

end

/-! ## Sending and publishing -/

namespace Mediator

variable {ρ ν : Type} [Requests ρ] [Messages ν] {m : Mediator σ ρ ν} {signal : Signal}
  {I : σ → Prop} {s : σ}

theorem ensures_instrumented {span : Span} {a : Action σ α} {Q : Exit α → σ → Prop} :
    (m.instrumented span a).Ensures I Q s ↔ a.Ensures I Q s := by
  unfold instrumented
  split
  · exact Action.ensures_within
  · rfl

theorem ensures_send {k : ρ} {handler : RequestHandler σ k} {links : List (RequestInterceptor σ k)}
    (hhandler : m.lookup.handler k = pure (.ok handler))
    (hlinks : m.lookup.interceptors k = pure links) {request : Body k}
    {Q : Exit (Except DispatchError (Outcome (Reply k))) → σ → Prop}
    (h : (chain (.request k) handler links request signal).Ensures I (fun exit => Q (exit.map .ok))
      s) :
    (m.send k request signal).Ensures I Q s := by
  simp only [send, hhandler, hlinks, pure_bind]
  rw [Action.ensures_log_bind, Action.ensures_bind, ensures_instrumented]
  refine h.mono fun exit s hs hQ => ?_
  cases exit with
  | value o => exact ⟨hs, hQ⟩
  | panicked p => exact hQ

theorem ensures_deliver {n : ν} {links : List (ListenerInterceptor σ n)}
    (hlinks : m.lookup.listenerInterceptors n = pure links) {event : Body n} {index : Nat}
    {listener : Listener σ n} {Q : Exit (Outcome Unit) → σ → Prop}
    (h : (chain (.notification n) listener links event signal).Ensures I Q s) :
    (m.deliver n event signal index listener).Ensures I Q s := by
  rw [deliver, hlinks, pure_bind, ensures_instrumented]
  exact h

/-- The delivery to one listener ends with a value and keeps `J`. -/
def Keeps (m : Mediator σ ρ ν) (n : ν) (event : Body n) (signal : Signal) (I J : σ → Prop)
    (listener : Listener σ n) : Prop :=
  ∀ index s, J s → (m.deliver n event signal index listener).Ensures I (Quiet J) s

theorem ensures_broadcast {n : ν} {event : Body n} {J : σ → Prop} (hI : ∀ s, J s → I s)
    {listeners : List (Listener σ n)} (h : ∀ l ∈ listeners, m.Keeps n event signal I J l)
    (index : Nat) (failures : List HandlerFailure) (hJ : J s) :
    (m.broadcast n event signal index failures listeners).Ensures I (Quiet J) s := by
  induction listeners generalizing index failures s with
  | nil => exact ⟨hI s hJ, ⟨_, rfl⟩, hJ⟩
  | cons listener rest ih =>
      have hrest {s : σ} := ih (s := s) fun l hl => h l (List.mem_cons_of_mem _ hl)
      have hquiet {s : σ} (hJ : J s) (result : Except DispatchError Unit) :
          (pure result : Action σ _).Ensures I (Quiet J) s := ⟨hI s hJ, ⟨_, rfl⟩, hJ⟩
      rw [broadcast, Action.ensures_isCancelled_bind, Bool.forall_bool]
      constructor
      · rw [if_neg Bool.false_ne_true, Action.ensures_bind]
        refine (h listener List.mem_cons_self index s hJ).mono fun exit s hs hQ => ?_
        obtain ⟨⟨o, rfl⟩, hJ⟩ := hQ
        cases o with
        | ok _ => exact hrest _ _ hJ
        | error e =>
            rw [Action.then_value, Action.ensures_log_bind]
            cases m.config.strategy with
            | stopOnFirstError => exact hquiet hJ _
            | continueOnError => exact hrest _ _ hJ
      · exact hquiet hJ _

theorem ensures_publish {n : ν} {event : Body n} {J : σ → Prop} (hI : ∀ s, J s → I s)
    {listeners : List (Listener σ n)} (hlisteners : m.lookup.listeners n = pure listeners)
    (h : ∀ l ∈ listeners, m.Keeps n event signal I J l) (hJ : J s) :
    (m.publish n event signal).Ensures I (Quiet J) s := by
  rw [publish, hlisteners, pure_bind]
  cases listeners with
  | nil => exact ⟨hI s hJ, ⟨_, rfl⟩, hJ⟩
  | cons listener rest => exact ensures_broadcast hI h 0 [] hJ

end Mediator

-- The rules are the way to open `Ensures` from here on: a definition of a whole client
-- unfolds to far too much.
attribute [irreducible] Action.Ensures

end Switchboard
