import Switchboard.Action.Laws

/-!
# Evaluation without the trace

Most of what is claimed of an action speaks of how it ends and of the world
that it leaves, not of what it reported on the way. `Action.eval` keeps these
two and drops the trace, and then spans and log events are invisible: the
lemmas here evaluate every building block of actions, and `eval_bind` puts
them together. They are simp lemmas, so an action whose branches have been
decided is evaluated by `simp`.
-/

namespace Switchboard

variable {σ α β : Type}

/-- A change of the value that work ends with; a panic stays. -/
def Exit.map (f : α → β) : Exit α → Exit β
  | .value a => .value (f a)
  | .panicked p => .panicked p

@[simp] theorem Exit.map_value (f : α → β) (a : α) : (value a).map f = value (f a) := rfl

@[simp] theorem Exit.map_panicked (f : α → β) (p : Panic) :
    (panicked p).map f = panicked p := rfl

namespace World

def fresh (w : World σ) (cause : Failure.Cause) : Failure := ⟨w.nextMark, cause⟩

def marked (w : World σ) : World σ := { w with nextMark := w.nextMark + 1 }

@[simp] theorem fresh_cause (w : World σ) (cause : Failure.Cause) :
    (w.fresh cause).cause = cause := rfl

@[simp] theorem marked_state (w : World σ) : w.marked.state = w.state := rfl

@[simp] theorem marked_sources (w : World σ) : w.marked.sources = w.sources := rfl

end World

namespace Action

/-- Carries an action out and keeps how it ended and the world that it left. -/
def eval (a : Action σ α) (w : World σ) : Exit α × World σ :=
  ((a.run w).exit, (a.run w).world)

/-! ## Sequencing -/

@[simp] theorem eval_pure (x : α) (w : World σ) :
    (pure x : Action σ α).eval w = (.value x, w) := rfl

@[simp] theorem eval_bind (a : Action σ α) (f : α → Action σ β) (w : World σ) :
    (a >>= f).eval w = match a.eval w with
      | (.value x, w') => (f x).eval w'
      | (.panicked p, w') => (.panicked p, w') := by
  have hrun : (a >>= f).run w = (a.run w).andThen f := run_bind a f w
  simp only [eval, hrun, Run.andThen]
  cases (a.run w).exit <;> rfl

@[simp] theorem eval_map (f : α → β) (a : Action σ α) (w : World σ) :
    (f <$> a).eval w = ((a.eval w).1.map f, (a.eval w).2) := by
  rw [map_eq_pure_bind, eval_bind]
  obtain ⟨exit, w'⟩ := a.eval w
  cases exit <;> rfl

theorem eval_bind_of_value {a : Action σ α} {w w' : World σ} {x : α}
    (h : a.eval w = (.value x, w')) (f : α → Action σ β) :
    (a >>= f).eval w = (f x).eval w' := by
  rw [eval_bind, h]

@[simp] theorem eval_panic (p : Panic) (w : World σ) :
    (panic p : Action σ α).eval w = (.panicked p, w) := rfl

@[simp] theorem eval_attempt (a : Action σ α) (w : World σ) :
    a.attempt.eval w = (.value (a.eval w).1, (a.eval w).2) := by
  simp only [eval, run_attempt]

/-- What a span adds to the events is not seen without the trace. -/
@[simp] theorem eval_within (span : Span) (a : Action σ α) (w : World σ) :
    (a.within span).eval w = a.eval w := by
  simp only [eval, run_within]

/-! ## Single steps -/

@[simp] theorem eval_emit (e : Event) (w : World σ) : (emit e).eval w = (.value (), w) := rfl

@[simp] theorem eval_log (level : Level) (message : String) (fields : List Field)
    (w : World σ) : (log level message fields).eval w = (.value (), w) := rfl

@[simp] theorem eval_state (w : World σ) :
    (state : Action σ σ).eval w = (.value w.state, w) := rfl

@[simp] theorem eval_modifyState (f : σ → σ) (w : World σ) :
    (modifyState f).eval w = (.value (), { w with state := f w.state }) := rfl

@[simp] theorem eval_fail (cause : Failure.Cause) (w : World σ) :
    (fail cause : Action σ (Outcome α)).eval w =
      (.value (.error (w.fresh cause)), w.marked) := rfl

@[simp] theorem eval_isCancelled (signal : Signal) (w : World σ) :
    (isCancelled signal).eval w = (.value (w.sources.isCancelled signal), w) := rfl

theorem eval_check {signal : Signal} {w : World σ}
    (h : w.sources.isCancelled signal = false) :
    (check signal).eval w = (.value (.ok ()), w) := by
  simp [check, h]

end Action

end Switchboard
