import Switchboard.Action

/-!
# Laws of actions

`Action σ` is a lawful monad, and carrying an action out goes step by step
with the way in which it was put together:

- `run_bind`: a sequence runs its first part, and the rest goes on in the
  world that this left, unless it panicked;
- `run_attempt`: an attempt ends as its action does and adds nothing;
- `run_within`: a span shows in the events and changes nothing else;
- `run_delay`, `polls_delay`: a delay costs polls and changes nothing else;
- `polls_eq_of_poll`, `run_eq_of_poll`: polling an action again and again
  until it is ready is one way of carrying it out.
-/

namespace Switchboard

variable {σ α β γ : Type}

/-! ## The monad laws -/

namespace Action

theorem bind_done (a : Action σ α) : a.bind done = a := by
  induction a with
  | done _ => rfl
  | panic _ => rfl
  | report r _ ih => exact congrArg (report r) ih
  | get _ ih => exact congrArg get (funext ih)
  | put s _ ih => exact congrArg (put s) ih
  | make c _ ih => exact congrArg (make c) (funext ih)
  | observe sig _ ih => exact congrArg (observe sig) (funext ih)
  | cancel id _ ih => exact congrArg (cancel id) ih
  | drop id _ ih => exact congrArg (drop id) ih
  | suspend _ ih => exact congrArg suspend ih

theorem bind_assoc (a : Action σ α) (f : α → Action σ β) (g : β → Action σ γ) :
    (a.bind f).bind g = a.bind fun x => (f x).bind g := by
  induction a with
  | done _ => rfl
  | panic _ => rfl
  | report r _ ih => exact congrArg (report r) ih
  | get _ ih => exact congrArg get (funext ih)
  | put s _ ih => exact congrArg (put s) ih
  | make c _ ih => exact congrArg (make c) (funext ih)
  | observe sig _ ih => exact congrArg (observe sig) (funext ih)
  | cancel id _ ih => exact congrArg (cancel id) ih
  | drop id _ ih => exact congrArg (drop id) ih
  | suspend _ ih => exact congrArg suspend ih

instance : LawfulMonad (Action σ) :=
  LawfulMonad.mk' (Action σ) bind_done (fun _ _ => rfl) bind_assoc

/-! ## Attempts -/

/-- An attempt that is resumed at once changes nothing. -/
theorem attempt_bind_resume (a : Action σ α) : a.attempt.bind resume = a := by
  induction a with
  | done _ => rfl
  | panic _ => rfl
  | report r _ ih => exact congrArg (report r) ih
  | get _ ih => exact congrArg get (funext ih)
  | put s _ ih => exact congrArg (put s) ih
  | make c _ ih => exact congrArg (make c) (funext ih)
  | observe sig _ ih => exact congrArg (observe sig) (funext ih)
  | cancel id _ ih => exact congrArg (cancel id) ih
  | drop id _ ih => exact congrArg (drop id) ih
  | suspend _ ih => exact congrArg suspend ih

/-- After an attempt only what follows can panic. -/
theorem attempt_bind_attempt (a : Action σ α) (f : Exit α → Action σ β) :
    (a.attempt.bind f).attempt = a.attempt.bind fun e => (f e).attempt := by
  induction a with
  | done _ => rfl
  | panic _ => rfl
  | report r _ ih => exact congrArg (report r) ih
  | get _ ih => exact congrArg get (funext ih)
  | put s _ ih => exact congrArg (put s) ih
  | make c _ ih => exact congrArg (make c) (funext ih)
  | observe sig _ ih => exact congrArg (observe sig) (funext ih)
  | cancel id _ ih => exact congrArg (cancel id) ih
  | drop id _ ih => exact congrArg (drop id) ih
  | suspend _ ih => exact congrArg suspend ih

end Action

/-! ## Running -/

/-- A run together with reports made before it. -/
def Run.after (before : Trace) (r : Run σ α) : Run σ α :=
  { r with trace := before ++ r.trace }

/-- Goes on from where a run ended. A panic has no rest to go on with. -/
def Run.andThen (r : Run σ α) (f : α → Action σ β) : Run σ β :=
  match r.exit with
  | .value a => ((f a).run r.world).after r.trace
  | .panicked p => ⟨.panicked p, r.world, r.trace⟩

namespace Action

theorem run_bind (a : Action σ α) (f : α → Action σ β) (w : World σ) :
    (a.bind f).run w = (a.run w).andThen f := by
  induction a generalizing w with
  | done a => rfl
  | panic p => rfl
  | report r rest ih =>
      simp only [bind, run, ih]
      cases h : (rest.run w).exit <;> simp [Run.andThen, Run.after, h]
  | get rest ih => exact ih w.state w
  | put s rest ih => exact ih _
  | make c rest ih => exact ih _ _
  | observe sig rest ih => exact ih _ w
  | cancel id rest ih => exact ih _
  | drop id rest ih => exact ih _
  | suspend rest ih => exact ih w

theorem run_attempt (a : Action σ α) (w : World σ) :
    a.attempt.run w = ⟨.value (a.run w).exit, (a.run w).world, (a.run w).trace⟩ := by
  induction a generalizing w with
  | done a => rfl
  | panic p => rfl
  | report r rest ih => simp only [attempt, run, ih]
  | get rest ih => exact ih w.state w
  | put s rest ih => exact ih _
  | make c rest ih => exact ih _ _
  | observe sig rest ih => exact ih _ w
  | cancel id rest ih => exact ih _
  | drop id rest ih => exact ih _
  | suspend rest ih => exact ih w

theorem run_within (span : Span) (a : Action σ α) (w : World σ) :
    (a.within span).run w =
      { a.run w with trace := (a.run w).trace.map (Report.inside span) } := by
  induction a generalizing w with
  | done a => rfl
  | panic p => rfl
  | report r rest ih => simp only [within, run, ih, List.map_cons]
  | get rest ih => exact ih w.state w
  | put s rest ih => exact ih _
  | make c rest ih => exact ih _ _
  | observe sig rest ih => exact ih _ w
  | cancel id rest ih => exact ih _
  | drop id rest ih => exact ih _
  | suspend rest ih => exact ih w

/-! ## Polling -/

theorem run_delay (n : Nat) (a : Action σ α) (w : World σ) : (a.delay n).run w = a.run w := by
  induction n with
  | zero => rfl
  | succ n ih => exact ih

theorem polls_delay (n : Nat) (a : Action σ α) (w : World σ) :
    (a.delay n).polls w = a.polls w + n := by
  induction n with
  | zero => rfl
  | succ n ih => simp only [delay, polls, ih]; omega

/-- The polls that are still to come after one poll, that one included. -/
def Poll.polls : Poll σ α → Nat
  | .ready _ => 1
  | .pending rest w _ => rest.polls w + 1

/-- The run that a first poll grows into. -/
def Poll.run : Poll σ α → Run σ α
  | .ready run => run
  | .pending rest w trace => (rest.run w).after trace

theorem Poll.polls_after (r : Report) (p : Poll σ α) : (p.after r).polls = p.polls := by
  cases p <;> rfl

theorem Poll.run_after (r : Report) (p : Poll σ α) :
    (p.after r).run = p.run.after [r] := by
  cases p <;> rfl

theorem polls_eq_of_poll (a : Action σ α) (w : World σ) : a.polls w = (a.poll w).polls := by
  induction a generalizing w with
  | done a => rfl
  | panic p => rfl
  | report r rest ih => rw [poll, Poll.polls_after]; exact ih w
  | get rest ih => exact ih w.state w
  | put s rest ih => exact ih _
  | make c rest ih => exact ih _ _
  | observe sig rest ih => exact ih _ w
  | cancel id rest ih => exact ih _
  | drop id rest ih => exact ih _
  | suspend rest => rfl

theorem run_eq_of_poll (a : Action σ α) (w : World σ) : a.run w = (a.poll w).run := by
  induction a generalizing w with
  | done a => rfl
  | panic p => rfl
  | report r rest ih => rw [poll, Poll.run_after, ← ih w]; rfl
  | get rest ih => exact ih w.state w
  | put s rest ih => exact ih _
  | make c rest ih => exact ih _ _
  | observe sig rest ih => exact ih _ w
  | cancel id rest ih => exact ih _
  | drop id rest ih => exact ih _
  | suspend rest => rfl

end Action

end Switchboard
