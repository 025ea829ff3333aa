import Mathlib.Data.List.Forall2
import Switchboard.Interceptor.Double
import Switchboard.Interceptor.Logging
import Switchboard.Interceptor.PanicBoundary
import Switchboard.Proofs.Passage

/-!
# Likeness

Two actions are alike if from every world they do the same, as far as can be told
without the log: they leave the same world and the same journal, and they end with
related values or with the same panic. The actions may be of different types, so a
request can be compared with a notification.

The relation is carried through everything that a chain is made of, and so a chain
of pairwise like interceptors around like handlers is a like handler
(`chain_like`). Interceptors that exist for requests and for notifications are
like each other, and so is every component with itself that makes nothing of the
message (`Handler.uniform_like`, `Interceptor.uniform_like`).
-/

namespace Switchboard

variable {σ α α' β β' M M' R R' : Type}

/-! ## Ends and outcomes -/

/-- The two ended with related values, or with the same panic. -/
inductive Exit.Like (like : α → α' → Prop) : Exit α → Exit α' → Prop
  | value {a : α} {a' : α'} (h : like a a') : Like like (.value a) (.value a')
  | panicked (p : Panic) : Like like (.panicked p) (.panicked p)

/-- Both are successes with related values, or the very same failure. -/
inductive OutcomeLike (reply : R → R' → Prop) : Outcome R → Outcome R' → Prop
  | ok {r : R} {r' : R'} (h : reply r r') : OutcomeLike reply (.ok r) (.ok r')
  | error (f : Failure) : OutcomeLike reply (.error f) (.error f)

theorem OutcomeLike.eq_of_eq {o o' : Outcome R} (h : OutcomeLike Eq o o') : o = o' := by
  cases h with
  | ok h => rw [h]
  | error f => rfl

theorem Exit.Like.eq_of_eq {e e' : Exit (Outcome R)} (h : e.Like (OutcomeLike Eq) e') : e = e' := by
  cases h with
  | value h => rw [h.eq_of_eq]
  | panicked p => rfl

/-- Two runs that differ in their log only, and in the types of their values. -/
structure Run.Like (like : α → α' → Prop) (r : Run σ α) (r' : Run σ α') : Prop where
  exit : r.exit.Like like r'.exit
  world : r.world = r'.world
  journal : r.trace.journal = r'.trace.journal

theorem Run.Like.after {like : α → α' → Prop} {r : Run σ α} {r' : Run σ α'} (h : r.Like like r')
    {t t' : Trace} (ht : t.journal = t'.journal) : (r.after t).Like like (r'.after t') :=
  ⟨h.exit, h.world, by simp [Run.after, ht, h.journal]⟩

/-- Like runs end together: with related values in one world, or with one panic. -/
theorem Run.Like.cases {like : α → α' → Prop} {r : Run σ α} {r' : Run σ α'} (h : r.Like like r') :
    (∃ a a' w t t', r = ⟨.value a, w, t⟩ ∧ r' = ⟨.value a', w, t'⟩ ∧ like a a' ∧
      t.journal = t'.journal) ∨
    ∃ p w t t', r = ⟨.panicked p, w, t⟩ ∧ r' = ⟨.panicked p, w, t'⟩ ∧ t.journal = t'.journal := by
  obtain ⟨exit, w, t⟩ := r
  obtain ⟨exit', w', t'⟩ := r'
  obtain ⟨hexit, rfl, hjournal⟩ := h
  cases hexit with
  | value hlike => exact .inl ⟨_, _, w, t, t', rfl, rfl, hlike, hjournal⟩
  | panicked p => exact .inr ⟨p, w, t, t', rfl, rfl, hjournal⟩

/-! ## Actions -/

namespace Action

/-- From every world the two actions run alike. -/
def Alike (like : α → α' → Prop) (a : Action σ α) (a' : Action σ α') : Prop :=
  ∀ w, (a.run w).Like like (a'.run w)

variable {like : α → α' → Prop} {like' : β → β' → Prop}

theorem Alike.pure {x : α} {x' : α'} (h : like x x') :
    (pure x : Action σ α).Alike like (pure x') :=
  fun _ => ⟨.value h, rfl, rfl⟩

/-- The same action, if its values are related to themselves. -/
theorem Alike.refl {like : α → α → Prop} (h : ∀ x, like x x) (a : Action σ α) :
    a.Alike like a := by
  intro w
  refine ⟨?_, rfl, rfl⟩
  cases (a.run w).exit with
  | value x => exact .value (h x)
  | panicked p => exact .panicked p

theorem Alike.panic (p : Panic) : (panic p : Action σ α).Alike like (panic p : Action σ α') :=
  fun _ => ⟨.panicked p, rfl, rfl⟩

theorem Alike.bind {a : Action σ α} {a' : Action σ α'} {f : α → Action σ β} {f' : α' → Action σ β'}
    (h : a.Alike like a') (hf : ∀ x x', like x x' → (f x).Alike like' (f' x')) :
    (a >>= f).Alike like' (a' >>= f') := by
  intro w
  rcases (h w).cases with ⟨x, x', w₁, t, t', hrun, hrun', hlike, hjournal⟩ |
    ⟨p, w₁, t, t', hrun, hrun', hjournal⟩
  · rw [run_bind_of_value hrun, run_bind_of_value hrun']
    exact (hf x x' hlike w₁).after hjournal
  · rw [run_bind_of_panic hrun, run_bind_of_panic hrun']
    exact ⟨.panicked p, rfl, hjournal⟩

theorem Alike.attempt {a : Action σ α} {a' : Action σ α'} (h : a.Alike like a') :
    a.attempt.Alike (Exit.Like like) a'.attempt := by
  intro w
  rw [run_attempt, run_attempt]
  exact ⟨.value (h w).exit, (h w).world, (h w).journal⟩

/-- What two actions log need not agree. -/
theorem Alike.emit {e e' : Event} : (emit e : Action σ Unit).Alike (fun _ _ => True) (emit e') :=
  fun _ => ⟨.value trivial, rfl, rfl⟩

theorem Alike.log {level level' : Level} {message message' : String} {fields fields' : List Field} :
    (log level message fields : Action σ Unit).Alike (fun _ _ => True)
      (log level' message' fields') :=
  .emit

theorem Alike.record (text : String) :
    (record text : Action σ Unit).Alike (fun _ _ => True) (record text) :=
  fun _ => ⟨.value trivial, rfl, rfl⟩

theorem Alike.isCancelled (signal : Signal) :
    (isCancelled signal : Action σ Bool).Alike Eq (isCancelled signal) :=
  fun _ => ⟨.value rfl, rfl, rfl⟩

theorem Alike.fail (reply : R → R' → Prop) (cause : Failure.Cause) :
    (fail cause : Action σ (Outcome R)).Alike (OutcomeLike reply) (fail cause) :=
  fun w => ⟨.value (.error (w.fresh cause)), rfl, rfl⟩

end Action

/-! ## Chains -/

section

variable (message : M → M' → Prop) (reply : R → R' → Prop)

/-- Both answer, with like outcomes, or both let related messages go on with the
same signal, and finish alike. -/
inductive Verdict.Like : Verdict σ M R → Verdict σ M' R' → Prop
  | answer {o : Outcome R} {o' : Outcome R'} (h : OutcomeLike reply o o') :
      Like (.answer o) (.answer o')
  | proceed {m : M} {m' : M'} (signal : Signal) {finish : Finish σ R} {finish' : Finish σ R'}
      (hmessage : message m m') (hfinish : ∀ ended ended', ended.Like (OutcomeLike reply) ended' →
        (finish ended).Alike (OutcomeLike reply) (finish' ended')) :
      Like (.proceed m signal finish) (.proceed m' signal finish')

/-- On related messages and the same signal the two handlers act alike. -/
def HandlerLike (handler : Handler σ M R) (handler' : Handler σ M' R') : Prop :=
  ∀ m m', message m m' → ∀ signal,
    (handler m signal).Alike (OutcomeLike reply) (handler' m' signal)

/-- On related messages and the same signal the two interceptors act alike. -/
def Interceptor.Like (link : Interceptor σ M R) (link' : Interceptor σ M' R') : Prop :=
  ∀ m m', message m m' → ∀ signal handlerNext,
    (link.enter m signal handlerNext).Alike (Verdict.Like message reply)
      (link'.enter m' signal handlerNext)

end

variable {message : M → M' → Prop} {reply : R → R' → Prop}

theorem boundary_like (topic topic' : Topic) (signal : Signal) {a : Action σ (Outcome R)}
    {a' : Action σ (Outcome R')} (h : a.Alike (OutcomeLike reply) a') :
    (boundary topic signal a).Alike (OutcomeLike reply) (boundary topic' signal a') := by
  refine .bind (.isCancelled signal) fun cancelled _ hcancelled => ?_
  subst hcancelled
  cases cancelled with
  | true => exact .bind .log fun _ _ _ => .fail reply _
  | false => exact h

/-- Pairwise like interceptors around like handlers make like handlers. -/
theorem chain_like (topic topic' : Topic) {handler : Handler σ M R} {handler' : Handler σ M' R'}
    (hhandler : HandlerLike message reply handler handler') {links : List (Interceptor σ M R)}
    {links' : List (Interceptor σ M' R')}
    (hlinks : List.Forall₂ (Interceptor.Like message reply) links links') :
    HandlerLike message reply (chain topic handler links) (chain topic' handler' links') := by
  induction hlinks with
  | nil => exact fun m m' hm signal => boundary_like topic topic' signal (hhandler m m' hm signal)
  | @cons link link' rest rest' hlink hrest ih =>
      intro m m' hm signal
      have hflag : rest.isEmpty = rest'.isEmpty := by cases hrest <;> rfl
      rw [chain, chain, ← hflag]
      refine boundary_like topic topic' signal (.bind (hlink m m' hm signal rest.isEmpty) ?_)
      intro verdict verdict' hverdict
      cases hverdict with
      | answer ho => exact .pure ho
      | proceed signal hpassed hfinish =>
          exact .bind (ih _ _ hpassed signal).attempt hfinish

/-! ## Components for requests and for notifications -/

/-- A handler that makes nothing of the message, for messages of any type. -/
def Handler.uniform (act : Signal → Action σ (Outcome R)) : Handler σ M R :=
  fun _ signal => act signal

theorem OutcomeLike.refl {reply : R → R → Prop} (h : ∀ r, reply r r) (o : Outcome R) :
    OutcomeLike reply o o := by
  cases o with
  | ok r => exact .ok (h r)
  | error f => exact .error f

theorem Handler.uniform_like {reply : R → R → Prop} (h : ∀ r, reply r r)
    (act : Signal → Action σ (Outcome R)) :
    HandlerLike message reply (Handler.uniform act) (Handler.uniform act) :=
  fun _ _ _ signal => .refl (OutcomeLike.refl h) (act signal)

/-- Lets the given message go on instead of none. -/
def Verdict.carry (m : M) : Verdict σ Unit R → Verdict σ M R
  | .answer o => .answer o
  | .proceed () signal finish => .proceed m signal finish

/-- An interceptor that makes nothing of the message, around messages of any type:
whatever it does and decides, a message that goes on goes on as it is. -/
def Interceptor.uniform (link : Interceptor σ Unit R) : Interceptor σ M R where
  name := link.name
  enter m signal handlerNext := do return (← link.enter () signal handlerNext).carry m

theorem Interceptor.uniform_like (link : Interceptor σ Unit R) :
    Like message Eq (uniform link : Interceptor σ M R) (uniform link : Interceptor σ M' R) := by
  intro m m' hm signal handlerNext
  refine .bind (.refl (fun _ => rfl) (link.enter () signal handlerNext)) ?_
  rintro verdict _ rfl
  cases verdict with
  | answer o => exact .pure (.answer (.refl (fun _ => rfl) o))
  | proceed _ signal finish =>
      refine .pure (.proceed signal hm fun ended ended' hended => ?_)
      rw [hended.eq_of_eq]
      exact .refl (OutcomeLike.refl fun _ => rfl) (finish ended')

/-- Forwarding alike. -/
theorem Verdict.forward_like {m : M} {m' : M'} (hm : message m m') (signal : Signal)
    {finish : Outcome R → Action σ (Outcome R)} {finish' : Outcome R' → Action σ (Outcome R')}
    (hfinish : ∀ o o', OutcomeLike reply o o' →
      (finish o).Alike (OutcomeLike reply) (finish' o')) :
    Like message reply (.forward m signal finish) (.forward m' signal finish') := by
  refine .proceed signal hm fun ended ended' hended => ?_
  cases hended with
  | value ho => exact hfinish _ _ ho
  | panicked p => exact .panic p

namespace Interceptor

theorem recording_like (name : String) :
    Like message reply (recording name : Interceptor σ M R) (recording name) := by
  intro m m' hm signal handlerNext
  refine .bind (.record _) fun _ _ _ => .pure (Verdict.forward_like hm signal fun o o' ho => ?_)
  exact .bind (.record _) fun _ _ _ => .pure ho

theorem shortCircuit_like (failure : Failure) :
    Like message reply (shortCircuit failure : Interceptor σ M R) (shortCircuit failure) :=
  fun _ _ _ _ _ => .pure (.answer (.error failure))

theorem panicBoundary_like (topic topic' : Topic) :
    Like message reply (panicBoundary topic : Interceptor σ M R) (panicBoundary topic') := by
  intro m m' hm signal handlerNext
  refine .pure (.proceed signal hm fun ended ended' hended => ?_)
  cases hended with
  | value ho => exact .pure ho
  | panicked p => exact .bind .emit fun _ _ _ => .fail reply _

theorem logging_like {ρ ν : Type} [Requests ρ] [Messages ν] (k : ρ) (n : ν)
    {message : Body k → Body n → Prop} {reply : Reply k → Unit → Prop} :
    Like message reply (logging k : Interceptor σ (Body k) (Reply k)) (listenerLogging n) := by
  intro m m' hm signal handlerNext
  refine .bind .log fun _ _ _ => .pure (Verdict.forward_like hm signal fun o o' ho => ?_)
  cases ho with
  | ok h => exact .bind .log fun _ _ _ => .pure (.ok h)
  | error f => exact .bind .log fun _ _ _ => .pure (.error f)

end Interceptor

end Switchboard
