import Switchboard.Outcome.Pipeline
import Switchboard.Proofs.Railway

/-!
# Suspension

A combinator in its asynchronous form does what it does in its direct form, however
often the future of its closure is pending before it does its work. All that this
costs is polls: one for each time that the future is pending, and the one that finds
it ready (`Route.schedules_agree`).

A route is a pipeline with the work of its closures, but without a choice of forms.
That choice, and how often each future is pending, is made by a schedule; so a route
under two schedules is the same pipeline with any of its steps replaced.
-/

namespace Switchboard

variable {σ κ α β : Type} {V : κ → Type}

namespace Action

/-! ## Polls -/

/-- What an action has come to after so many polls, if it is ready by then. -/
def polled : Nat → Action σ α → World σ → Option (Run σ α)
  | 0, _, _ => none
  | n + 1, a, w =>
    match a.poll w with
    | .ready run => some run
    | .pending rest w' t => (polled n rest w').map (Run.after t)

/-- Ready after exactly `n` polls: before that it is pending. -/
def ReadyAfter (n : Nat) (a : Action σ α) (w : World σ) : Prop :=
  ∀ m, polled m a w = if m < n then none else some (a.run w)

theorem polls_pos (a : Action σ α) (w : World σ) : 0 < a.polls w := by
  rw [polls_eq_of_poll]
  cases a.poll w with
  | ready run => exact Nat.one_pos
  | pending rest w' t => exact Nat.succ_pos _

/-- `Action.polls` counts right. -/
theorem readyAfter_polls (a : Action σ α) (w : World σ) : ReadyAfter (a.polls w) a w := by
  intro m
  -- each poll either ends the action or leaves one that takes a poll less
  induction m generalizing a w with
  | zero => rw [if_pos (a.polls_pos w), polled]
  | succ m ih =>
      rw [polled, polls_eq_of_poll, run_eq_of_poll]
      cases a.poll w with
      | ready run => rfl
      | pending rest w' t =>
          simp only [ih, Poll.polls, Poll.run, Nat.add_lt_add_iff_right]
          split <;> rfl

/-! ## Work without a suspension -/

/-- Never suspends itself, whatever it comes upon. -/
def Prompt : Action σ α → Prop
  | done _ => True
  | panic _ => True
  | report _ rest => rest.Prompt
  | get rest => ∀ s, (rest s).Prompt
  | put _ rest => rest.Prompt
  | make _ rest => ∀ f, (rest f).Prompt
  | observe _ rest => ∀ b, (rest b).Prompt
  | cancel _ rest => rest.Prompt
  | drop _ rest => rest.Prompt
  | suspend _ => False

theorem Prompt.polls_eq {a : Action σ α} (h : a.Prompt) (w : World σ) : a.polls w = 1 := by
  induction a generalizing w with
  | done _ => rfl
  | panic _ => rfl
  | report _ _ ih | put _ _ ih | cancel _ _ ih | drop _ _ ih => exact ih h _
  | get _ ih | make _ _ ih | observe _ _ ih => exact ih _ (h _) _
  | suspend _ _ => cases h

theorem Prompt.map {a : Action σ α} (h : a.Prompt) (f : α → β) : (f <$> a).Prompt := by
  rw [map_eq_pure_bind]
  induction a with
  | done _ => trivial
  | panic _ => trivial
  | report _ _ ih | put _ _ ih | cancel _ _ ih | drop _ _ ih => exact ih h
  | get _ ih | make _ _ ih | observe _ _ ih => exact fun x => ih x (h x)
  | suspend _ _ => cases h

theorem map_delay (f : α → β) (n : Nat) (a : Action σ α) : f <$> a.delay n = (f <$> a).delay n := by
  induction n with
  | zero => rfl
  | succ n ih => exact congrArg suspend ih

end Action

namespace Railway

/-- What a closure does with its argument: an action that is carried out at once. -/
structure Work (σ α : Type) where
  action : Action σ α
  prompt : action.Prompt

def Work.map (f : α → β) (work : Work σ α) : Work σ β :=
  ⟨f <$> work.action, work.prompt.map f⟩

/-! ## Steps that may also fold -/

/-- A step of a pipeline, or one that takes either of two branches, each of which
yields an outcome. -/
inductive Combinator (σ : Type) (V : κ → Type) : κ → κ → Type where
  | step {j k : κ} (s : Step σ V j k) : Combinator σ V j k
  | fold {j k : κ} (form : Form) (success : form.Closure σ (V j) (Outcome (V k)))
      (failure : form.Closure σ Failure (Outcome (V k))) : Combinator σ V j k

namespace Combinator

variable {j k : κ}

def run : Combinator σ V j k → Outcome (V j) → Action σ (Outcome (V k))
  | .step s, o => s.run o
  | .fold .direct success failure, o => Outcome.fold o success failure
  | .fold .async success failure, o => Outcome.foldAsync o success failure

/-- The combinator with its closures noting their calls; `n` is its number. -/
def noted (n : Nat) : Combinator σ V j k → Combinator (σ × List (Call V)) V j k
  | .step s => .step (s.noted n)
  | .fold form success failure =>
    .fold form (form.noted (.value n) success) (form.noted (.failure n) failure)

def calls (n : Nat) : Combinator σ V j k → Outcome (V j) → List (Call V)
  | .step s, o => s.calls n o
  | .fold _ _ _, .ok a => [.value n a]
  | .fold _ _ _, .error c => [.failure n c]

section

variable (form : Form) (success : form.Closure σ (V j) (Outcome (V k)))
  (failure : form.Closure σ Failure (Outcome (V k)))

theorem run_fold_ok (a : V j) : (fold form success failure).run (.ok a) = form.call success a := by
  cases form <;> rfl

theorem run_fold_error (c : Failure) :
    (fold form success failure).run (.error c) = form.call failure c := by
  cases form <;> rfl

end

theorem run_noted (n : Nat) (c : Combinator σ V j k) (o : Outcome (V j)) (w : World σ)
    (log : List (Call V)) :
    ((c.noted n).run o).run (w.beside log) = ((c.run o).run w).beside (log ++ c.calls n o) := by
  cases c with
  | step s => exact s.run_noted n o w log
  | fold form success failure =>
      cases o with
      | ok a =>
          rw [noted, run_fold_ok, run_fold_ok]
          exact form.run_call_noted _ success a w log
      | error c =>
          rw [noted, run_fold_error, run_fold_error]
          exact form.run_call_noted _ failure c w log

end Combinator

/-! ## Schedules -/

/-- Which steps of a pipeline are taken in their asynchronous form, and how often the
future of each call is pending before it does its work. -/
structure Schedule (V : κ → Type) where
  async : Nat → Bool
  yields : Call V → Nat

/-- No step is asynchronous. -/
def Schedule.direct : Schedule V :=
  ⟨fun _ => false, fun _ => 0⟩

/-- The form of step number `n`. -/
def Schedule.form (schedule : Schedule V) (n : Nat) : Form :=
  if schedule.async n then .async else .direct

/-- The closure in a form: it does its work itself, or it yields it as a future. -/
def Form.closure : (form : Form) → (yields : α → Nat) → (α → Work σ β) → form.Closure σ α β
  | .direct, _, f => fun a => (f a).action
  | .async, yields, f => fun a => Pipeline.deferred (yields a) (fun a => (f a).action) a

/-- How often a call is pending. -/
def Form.pending : Form → (yields : Nat) → Nat
  | .direct, _ => 0
  | .async, yields => yields

theorem Form.call_closure (form : Form) (yields : α → Nat) (f : α → Work σ β) (a : α) :
    form.call (form.closure yields f) a = (f a).action.delay (form.pending (yields a)) := by
  cases form <;> rfl

/-! ## Routes -/

/-- A step with the work of its closures. -/
inductive Stage (σ : Type) (V : κ → Type) : κ → κ → Type where
  | map {j k : κ} (f : V j → Work σ (V k)) : Stage σ V j k
  | bind {j k : κ} (f : V j → Work σ (Outcome (V k))) : Stage σ V j k
  | onSuccess {k : κ} (act : V k → Work σ Unit) : Stage σ V k k
  | onFailure {k : κ} (act : Failure → Work σ Unit) : Stage σ V k k
  | fold {j k : κ} (success : V j → Work σ (Outcome (V k)))
      (failure : Failure → Work σ (Outcome (V k))) : Stage σ V j k

/-- What a step comes to on an outcome: it calls nothing, or it makes one call. -/
inductive Task (σ : Type) (V : κ → Type) (k : κ) where
  | skipped (o : Outcome (V k))
  | called (call : Call V) (work : Work σ (Outcome (V k)))

namespace Task

variable {k : κ}

def calls : Task σ V k → List (Call V)
  | skipped _ => []
  | called call _ => [call]

def action (form : Form) (yields : Call V → Nat) : Task σ V k → Action σ (Outcome (V k))
  | skipped o => pure o
  | called call work => work.action.delay (form.pending (yields call))

/-- The form is not seen in how the action runs. -/
theorem run_action (form : Form) (yields : Call V → Nat) (task : Task σ V k) (w : World σ) :
    (task.action form yields).run w = (task.action .direct yields).run w := by
  cases task with
  | skipped o => rfl
  | called call work =>
      rw [action, action, Action.run_delay, Action.run_delay]

/-- The future costs one poll, and one more for each time that a call is pending. -/
theorem onTime (yields : Call V → Nat) (task : Task σ V k) (w : World σ) :
    (task.calls = [] ∧ (task.action .async yields).ReadyAfter 1 w) ∨
      ∃ call, task.calls = [call] ∧
        (task.action .async yields).ReadyAfter (yields call + 1) w := by
  cases task with
  | skipped o => exact .inl ⟨rfl, (pure o : Action σ _).readyAfter_polls w⟩
  | called call work =>
      have hpolls : (work.action.delay (yields call)).polls w = yields call + 1 := by
        rw [Action.polls_delay, work.prompt.polls_eq, Nat.add_comm]
      refine .inr ⟨call, rfl, ?_⟩
      rw [← hpolls]
      exact Action.readyAfter_polls _ w

end Task

namespace Stage

variable {j k : κ}

/-- Step number `n` as it is scheduled. -/
def code (schedule : Schedule V) (n : Nat) : Stage σ V j k → Combinator σ V j k
  | .map f =>
    .step (.map _ ((schedule.form n).closure (fun a => schedule.yields (.value n a)) f))
  | .bind f =>
    .step (.bind _ ((schedule.form n).closure (fun a => schedule.yields (.value n a)) f))
  | .onSuccess act =>
    .step (.onSuccess _ ((schedule.form n).closure (fun a => schedule.yields (.value n a)) act))
  | .onFailure act =>
    .step (.onFailure _ ((schedule.form n).closure (fun c => schedule.yields (.failure n c)) act))
  | .fold success failure =>
    .fold _ ((schedule.form n).closure (fun a => schedule.yields (.value n a)) success)
      ((schedule.form n).closure (fun c => schedule.yields (.failure n c)) failure)

def task (n : Nat) : Stage σ V j k → Outcome (V j) → Task σ V k
  | .map f, .ok a => .called (.value n a) ((f a).map .ok)
  | .map _, .error c => .skipped (.error c)
  | .bind f, .ok a => .called (.value n a) (f a)
  | .bind _, .error c => .skipped (.error c)
  | .onSuccess act, .ok a => .called (.value n a) ((act a).map fun _ => .ok a)
  | .onSuccess _, .error c => .skipped (.error c)
  | .onFailure _, .ok a => .skipped (.ok a)
  | .onFailure act, .error c => .called (.failure n c) ((act c).map fun _ => .error c)
  | .fold success _, .ok a => .called (.value n a) (success a)
  | .fold _ failure, .error c => .called (.failure n c) (failure c)

/-- In each form a step does its task, and the form decides how often it is pending. -/
theorem run_code (schedule : Schedule V) (n : Nat) (s : Stage σ V j k) (o : Outcome (V j)) :
    (s.code schedule n).run o = (s.task n o).action (schedule.form n) schedule.yields := by
  -- where the result of a call is mapped, the delay has to move out of the `map`
  cases s with
  | map f =>
      cases o with
      | ok a =>
          show (Step.map _ _).run (.ok a) = _
          rw [run_map_ok, Form.call_closure, Action.map_delay]
          rfl
      | error c => exact run_map_error _ _ c
  | bind f =>
      cases o with
      | ok a =>
          show (Step.bind _ _).run (.ok a) = _
          rw [run_bind_ok, Form.call_closure]
          rfl
      | error c => exact run_bind_error _ _ c
  | onSuccess act =>
      cases o with
      | ok a =>
          show (Step.onSuccess _ _).run (.ok a) = _
          rw [run_onSuccess_ok, Form.call_closure, Action.map_delay]
          rfl
      | error c => exact run_onSuccess_error _ _ c
  | onFailure act =>
      cases o with
      | ok a => exact run_onFailure_ok _ _ a
      | error c =>
          show (Step.onFailure _ _).run (.error c) = _
          rw [run_onFailure_error, Form.call_closure, Action.map_delay]
          rfl
  | fold success failure =>
      cases o with
      | ok a =>
          rw [code, Combinator.run_fold_ok, Form.call_closure]
          rfl
      | error c =>
          rw [code, Combinator.run_fold_error, Form.call_closure]
          rfl

theorem calls_code (schedule : Schedule V) (n : Nat) (s : Stage σ V j k) (o : Outcome (V j)) :
    (s.code schedule n).calls n o = (s.task n o).calls := by
  cases s <;> cases o <;> rfl

end Stage

/-- A pipeline with the work of its closures. -/
inductive Route (σ : Type) (V : κ → Type) : κ → κ → Type where
  | nil {k : κ} : Route σ V k k
  | cons {i j k : κ} (s : Stage σ V i j) (route : Route σ V j k) : Route σ V i k

/-- The route as a pipeline, as it is scheduled; its first step has number `n`. -/
def Route.run {j k : κ} (schedule : Schedule V) (n : Nat) :
    Route σ V j k → Outcome (V j) → Action σ (Outcome (V k))
  | nil, o => pure o
  | cons s route, o => (s.code schedule n).run o >>= route.run schedule (n + 1)

/-! ## Steps that are taken -/

/-- A step that a pipeline has taken: what it does with the outcome that it was given,
the world in which it was started, and the calls that its closures note. -/
structure Taken (σ : Type) (V : κ → Type) where
  number : Nat
  kind : κ
  code : Action σ (Outcome (V kind))
  start : World σ
  calls : List (Call V)

namespace Taken

def run (x : Taken σ V) : Run σ (Outcome (V x.kind)) :=
  x.code.run x.start

/-- What is seen of a step: how it ended, the world that it left, what it reported and
which closures it called with what. -/
def sight (x : Taken σ V) : Nat × (Σ k, Run σ (Outcome (V k))) × List (Call V) :=
  (x.number, ⟨x.kind, x.run⟩, x.calls)

/-- The future of the step is ready at the first poll, if no closure is called, and
else at the one after the call has been pending for the last time. -/
def OnTime (yields : Call V → Nat) (x : Taken σ V) : Prop :=
  (x.calls = [] ∧ x.code.ReadyAfter 1 x.start) ∨
    ∃ call, x.calls = [call] ∧ x.code.ReadyAfter (yields call + 1) x.start

end Taken

section

variable {j k : κ} (schedule : Schedule V) (n : Nat)

def Stage.taken (s : Stage σ V j k) (o : Outcome (V j)) (w : World σ) : Taken σ V where
  number := n
  kind := k
  code := (s.code schedule n).run o
  start := w
  calls := ((((s.code schedule n).noted n).run o).run (w.beside [])).world.state.2

/-- The steps that a pipeline takes, each on the outcome and in the world that the one
before has left. A panic is the end. -/
def Route.course {j k : κ} : (n : Nat) → Route σ V j k → Outcome (V j) → World σ → List (Taken σ V)
  | _, nil, _, _ => []
  | n, cons s route, o, w =>
    s.taken schedule n o w ::
      match (s.taken schedule n o w).run with
      | ⟨.value o', w', _⟩ => route.course (n + 1) o' w'
      | ⟨.panicked _, _, _⟩ => []

variable {schedule n}

theorem Stage.calls_taken (s : Stage σ V j k) (o : Outcome (V j)) (w : World σ) :
    (s.taken schedule n o w).calls = (s.task n o).calls := by
  rw [taken, Combinator.run_noted, Stage.calls_code]
  rfl

/-- A step runs the same in both forms. -/
theorem Stage.run_taken (s : Stage σ V j k) (o : Outcome (V j)) (w : World σ) :
    (s.taken schedule n o w).run = (s.taken .direct n o w).run := by
  show ((s.code schedule n).run o).run w = ((s.code .direct n).run o).run w
  rw [run_code, run_code, Task.run_action]
  cases s.task n o <;> rfl

theorem Stage.sight_taken (s : Stage σ V j k) (o : Outcome (V j)) (w : World σ) :
    (s.taken schedule n o w).sight = (s.taken .direct n o w).sight := by
  have hrun : (s.taken schedule n o w).run = (s.taken .direct n o w).run := s.run_taken o w
  have hcalls : (s.taken schedule n o w).calls = (s.taken .direct n o w).calls := by
    rw [calls_taken, calls_taken]
  show (n, (⟨k, (s.taken schedule n o w).run⟩ : Σ k, Run σ (Outcome (V k))), _) = (n, ⟨k, _⟩, _)
  rw [hrun, hcalls]

theorem Stage.onTime_taken (hasync : schedule.async n = true) (s : Stage σ V j k)
    (o : Outcome (V j)) (w : World σ) : (s.taken schedule n o w).OnTime schedule.yields := by
  have hform : schedule.form n = .async := if_pos hasync
  have hcalls : (s.taken schedule n o w).calls = (s.task n o).calls := s.calls_taken o w
  have htask := (s.task n o).onTime schedule.yields w
  rw [← hform, ← run_code, ← hcalls] at htask
  exact htask

end

namespace Route

variable {j k : κ} {schedule : Schedule V}

theorem sights_course (n : Nat) (route : Route σ V j k) (o : Outcome (V j)) (w : World σ) :
    (route.course schedule n o w).map Taken.sight =
      (route.course .direct n o w).map Taken.sight := by
  induction route generalizing n w with
  | nil => rfl
  | cons s route ih =>
      rw [course, course, List.map_cons, List.map_cons, s.sight_taken, s.run_taken]
      rcases (s.taken .direct n o w).run with ⟨exit, w₁, t⟩
      cases exit with
      | value o₁ => exact congrArg _ (ih (n + 1) o₁ w₁)
      | panicked p => rfl

theorem onTime_course (n : Nat) (route : Route σ V j k) (o : Outcome (V j)) (w : World σ) :
    ∀ x ∈ route.course schedule n o w, schedule.async x.number = true →
      x.OnTime schedule.yields := by
  induction route generalizing n w with
  | nil => nofun
  | cons s route ih =>
      intro x hx hasync
      rw [course] at hx
      rcases List.mem_cons.mp hx with rfl | hlater
      · exact s.onTime_taken hasync o w
      · rcases hrun : (s.taken schedule n o w).run with ⟨exit, w₁, t⟩
        rw [hrun] at hlater
        cases exit with
        | value o₁ => exact ih (n + 1) o₁ w₁ x hlater hasync
        | panicked p => cases hlater

/-- A route runs the same in every schedule. -/
theorem run_schedule (n : Nat) (route : Route σ V j k) (o : Outcome (V j)) (w : World σ) :
    (route.run schedule n o).run w = (route.run .direct n o).run w := by
  induction route generalizing n w with
  | nil => rfl
  | cons s route ih =>
      have hsame : ((s.code schedule n).run o).run w = ((s.code .direct n).run o).run w :=
        s.run_taken o w
      rcases hs : ((s.code .direct n).run o).run w with ⟨exit, w₁, t⟩
      rw [hs] at hsame
      cases exit with
      | value o₁ =>
          rw [run, run, Action.run_bind_of_value hs, Action.run_bind_of_value hsame, ih]
      | panicked p => rw [run, run, Action.run_bind_of_panic hs, Action.run_bind_of_panic hsame]

/-- What a route reports is what its steps report. -/
theorem trace_run (n : Nat) (route : Route σ V j k) (o : Outcome (V j)) (w : World σ) :
    ((route.run schedule n o).run w).trace =
      (route.course schedule n o w).flatMap fun x => x.run.trace := by
  induction route generalizing n w with
  | nil => rfl
  | cons s route ih =>
      have htaken : (s.taken schedule n o w).run = ((s.code schedule n).run o).run w := rfl
      rcases hs : ((s.code schedule n).run o).run w with ⟨exit, w₁, t⟩
      rw [hs] at htaken
      cases exit with
      | value o₁ =>
          rw [run, Action.run_bind_of_value hs, course, List.flatMap_cons, htaken]
          exact congrArg (t ++ ·) (ih (n + 1) o₁ w₁)
      | panicked p =>
          rw [run, Action.run_bind_of_panic hs, course, List.flatMap_cons, htaken]
          exact (List.append_nil t).symm

/-- A pipeline of any steps, from any outcome. Whichever of its steps are taken in the
asynchronous form, and however often the future of each call is pending, the pipeline
takes the same steps as in the direct form: each ends with the same outcome, the very
same failure or panic, leaves the same world, reports the same and calls the same
closure with the same argument. The future of an asynchronous step is ready after one
poll more than its call is pending, and after the first poll if there is no call. The
pipeline as a whole runs as its steps do. -/
theorem schedules_agree (route : Route σ V j k) (schedule : Schedule V) (o : Outcome (V j))
    (w : World σ) :
    (route.course schedule 0 o w).map Taken.sight =
        (route.course .direct 0 o w).map Taken.sight ∧
      (∀ x ∈ route.course schedule 0 o w, schedule.async x.number = true →
        x.OnTime schedule.yields) ∧
      (route.run schedule 0 o).run w = (route.run .direct 0 o).run w ∧
      ((route.run schedule 0 o).run w).trace =
        (route.course schedule 0 o w).flatMap fun x => x.run.trace :=
  ⟨route.sights_course 0 o w, route.onTime_course 0 o w, route.run_schedule 0 o w,
    route.trace_run 0 o w⟩

/-- On a failure `map` calls nothing, and `fold` its other branch. -/
example (w : World Unit) (c : Failure) :
    let V : Unit → Type := fun _ => Nat
    let next : Stage Unit V () () := .map fun a => ⟨pure (a.add 1), trivial⟩
    let recover : Stage Unit V () () :=
      .fold (fun a => ⟨pure (.ok a), trivial⟩) fun _ => ⟨pure (.ok Nat.zero), trivial⟩
    let route : Route Unit V () () := .cons next (.cons recover .nil)
    (route.course ⟨fun _ => true, fun _ => 2⟩ 0 (.error c) w).map
        (fun x => (x.calls, x.code.polls x.start)) =
      [([], 1), ([.failure 1 c], 3)] := rfl

end Route

end Railway

end Switchboard
