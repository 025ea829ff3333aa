import Switchboard.Outcome
import Switchboard.Proofs.Metering

/-!
# Two tracks

A pipeline of combinators on outcomes runs on two tracks. On the one track each
closure is called with the value that the closures before it have made; the
first `bind` whose closure yields a failure leads over to the other one, where
only the actions of `onFailure` are called, each with that failure. Nothing
leads back, and a panic of a closure ends the pipeline.

`Pipeline.ends_on_track` says so of every pipeline. That no closure is called
besides is seen from closures that note their calls in a log beside the state.
-/

namespace Switchboard.Railway

variable {σ τ κ α β : Type} {V : κ → Type}

/-! ## Pipelines -/

/-- How a step takes its closure: it is called, or it is called for a future,
which is then awaited. -/
inductive Form where
  | direct
  | async
deriving DecidableEq, Repr

def Form.Closure (σ : Type) : Form → Type → Type → Type
  | .direct, α, β => α → Action σ β
  | .async, α, β => α → Action σ (Action σ β)

/-- A call of a closure, up to its result. -/
def Form.call : (form : Form) → form.Closure σ α β → α → Action σ β
  | .direct, f, a => f a
  | .async, f, a => f a >>= id

/-- A step from values of type `V j` to values of type `V k`. -/
inductive Step (σ : Type) (V : κ → Type) : κ → κ → Type where
  | map {j k : κ} (form : Form) (f : form.Closure σ (V j) (V k)) : Step σ V j k
  | bind {j k : κ} (form : Form) (f : form.Closure σ (V j) (Outcome (V k))) : Step σ V j k
  | onSuccess {k : κ} (form : Form) (act : form.Closure σ (V k) Unit) : Step σ V k k
  | onFailure {k : κ} (form : Form) (act : form.Closure σ Failure Unit) : Step σ V k k

def Step.run {j k : κ} : Step σ V j k → Outcome (V j) → Action σ (Outcome (V k))
  | .map .direct f, o => Outcome.map o f
  | .map .async f, o => Outcome.mapAsync o f
  | .bind .direct f, o => Outcome.bind o f
  | .bind .async f, o => Outcome.bindAsync o f
  | .onSuccess .direct act, o => Outcome.onSuccess o act
  | .onSuccess .async act, o => Outcome.onSuccessAsync o act
  | .onFailure .direct act, o => Outcome.onFailure o act
  | .onFailure .async act, o => Outcome.onFailureAsync o act

inductive Pipeline (σ : Type) (V : κ → Type) : κ → κ → Type where
  | nil {k : κ} : Pipeline σ V k k
  | cons {i j k : κ} (s : Step σ V i j) (p : Pipeline σ V j k) : Pipeline σ V i k

namespace Pipeline

def run {j k : κ} : Pipeline σ V j k → Outcome (V j) → Action σ (Outcome (V k))
  | nil, o => pure o
  | cons s p, o => s.run o >>= p.run

def append {i j k : κ} : Pipeline σ V i j → Pipeline σ V j k → Pipeline σ V i k
  | nil, rest => rest
  | cons s p, rest => cons s (p.append rest)

end Pipeline

/-! ## What a step does -/

section

variable {j k : κ} (form : Form)

theorem run_map_ok (f : form.Closure σ (V j) (V k)) (a : V j) :
    (Step.map form f).run (.ok a) = .ok <$> form.call f a := by
  cases form with
  | direct => exact (map_eq_pure_bind _ _).symm
  | async =>
      show f a >>= _ = _ <$> (f a >>= id)
      rw [map_bind]
      rfl

theorem run_bind_ok (f : form.Closure σ (V j) (Outcome (V k))) (a : V j) :
    (Step.bind form f).run (.ok a) = form.call f a := by
  cases form <;> rfl

theorem run_onSuccess_ok (act : form.Closure σ (V k) Unit) (a : V k) :
    (Step.onSuccess form act).run (.ok a) = (fun _ => .ok a) <$> form.call act a := by
  cases form with
  | direct => exact (map_eq_pure_bind _ _).symm
  | async => simp [Step.run, Outcome.onSuccessAsync, Form.call]

theorem run_onFailure_ok (act : form.Closure σ Failure Unit) (a : V k) :
    (Step.onFailure form act).run (.ok a) = pure (.ok a) := by
  cases form <;> rfl

theorem run_map_error (f : form.Closure σ (V j) (V k)) (c : Failure) :
    (Step.map form f).run (.error c) = pure (.error c) := by
  cases form <;> rfl

theorem run_bind_error (f : form.Closure σ (V j) (Outcome (V k))) (c : Failure) :
    (Step.bind form f).run (.error c) = pure (.error c) := by
  cases form <;> rfl

theorem run_onSuccess_error (act : form.Closure σ (V k) Unit) (c : Failure) :
    (Step.onSuccess form act).run (.error c) = pure (.error c) := by
  cases form <;> rfl

theorem run_onFailure_error (act : form.Closure σ Failure Unit) (c : Failure) :
    (Step.onFailure form act : Step σ V k k).run (.error c) =
      (fun _ => .error c) <$> form.call act c := by
  cases form with
  | direct => exact (map_eq_pure_bind _ _).symm
  | async => simp [Step.run, Outcome.onFailureAsync, Form.call]

end

/-! ## Closures that note their calls -/

/-- A call of the closure of a step, with what it is called with. -/
inductive Call (V : κ → Type) where
  | value (step : Nat) {k : κ} (a : V k)
  | failure (step : Nat) (c : Failure)

/-- A closure that notes a call before it does what it always does. -/
def Form.noted (call : α → τ) :
    (form : Form) → form.Closure σ α β → form.Closure (σ × List τ) α β
  | .direct, f => fun a => do
    Action.modifyState fun (s, log) => (s, log ++ [call a])
    (f a).lift
  | .async, f => fun a => do
    Action.modifyState fun (s, log) => (s, log ++ [call a])
    Action.lift <$> (f a).lift

theorem Form.run_call_noted (call : α → τ) (form : Form) (f : form.Closure σ α β) (a : α)
    (w : World σ) (log : List τ) :
    (form.call (form.noted call f) a).run (w.beside log) =
      ((form.call f a).run w).beside (log ++ [call a]) := by
  have hcall : form.call (form.noted call f) a =
      (Action.modifyState fun (s, log) => (s, log ++ [call a])) >>=
        fun _ => (form.call f a).lift := by
    cases form with
    | direct => rfl
    | async =>
        simp only [Form.call, noted, Action.lift_bind, bind_assoc, bind_map_left]
        rfl
  rw [hcall]
  exact Action.run_lift (form.call f a) w (log ++ [call a])

/-- The step with its closure noting its calls; `n` is the number of the step. -/
def Step.noted (n : Nat) {j k : κ} : Step σ V j k → Step (σ × List (Call V)) V j k
  | .map form f => .map form (form.noted (.value n) f)
  | .bind form f => .bind form (form.noted (.value n) f)
  | .onSuccess form act => .onSuccess form (form.noted (.value n) act)
  | .onFailure form act => .onFailure form (form.noted (.failure n) act)

/-- The calls that a step makes on an outcome. -/
def Step.calls (n : Nat) {j k : κ} : Step σ V j k → Outcome (V j) → List (Call V)
  | .map _ _, .ok a => [.value n a]
  | .map _ _, .error _ => []
  | .bind _ _, .ok a => [.value n a]
  | .bind _ _, .error _ => []
  | .onSuccess _ _, .ok a => [.value n a]
  | .onSuccess _ _, .error _ => []
  | .onFailure _ _, .ok _ => []
  | .onFailure _ _, .error c => [.failure n c]

theorem Step.run_noted (n : Nat) {j k : κ} (s : Step σ V j k) (o : Outcome (V j)) (w : World σ)
    (log : List (Call V)) :
    ((s.noted n).run o).run (w.beside log) = ((s.run o).run w).beside (log ++ s.calls n o) := by
  cases s with
  | map form f =>
      cases o with
      | ok a =>
          rw [noted, run_map_ok, run_map_ok]
          exact Action.run_map_beside (form.run_call_noted _ f a w log) _
      | error c =>
          rw [noted, run_map_error, run_map_error, calls, List.append_nil]
          rfl
  | bind form f =>
      cases o with
      | ok a =>
          rw [noted, run_bind_ok, run_bind_ok]
          exact form.run_call_noted _ f a w log
      | error c =>
          rw [noted, run_bind_error, run_bind_error, calls, List.append_nil]
          rfl
  | onSuccess form act =>
      cases o with
      | ok a =>
          rw [noted, run_onSuccess_ok, run_onSuccess_ok]
          exact Action.run_map_beside (form.run_call_noted _ act a w log) _
      | error c =>
          rw [noted, run_onSuccess_error, run_onSuccess_error, calls, List.append_nil]
          rfl
  | onFailure form act =>
      cases o with
      | ok a =>
          rw [noted, run_onFailure_ok, run_onFailure_ok, calls, List.append_nil]
          rfl
      | error c =>
          rw [noted, run_onFailure_error, run_onFailure_error]
          exact Action.run_map_beside (form.run_call_noted _ act c w log) _

namespace Pipeline

/-- The pipeline with all closures noting their calls; its first step has number `n`. -/
def noted (n : Nat) {j k : κ} : Pipeline σ V j k → Pipeline (σ × List (Call V)) V j k
  | nil => nil
  | cons s p => cons (s.noted n) (p.noted (n + 1))

/-- The calls that a pipeline makes on an outcome. -/
def calls (n : Nat) {j k : κ} : Pipeline σ V j k → World σ → Outcome (V j) → List (Call V)
  | nil, _, _ => []
  | cons s p, w, o => s.calls n o ++
    match (s.run o).run w with
    | ⟨.value o, w, _⟩ => p.calls (n + 1) w o
    | ⟨.panicked _, _, _⟩ => []

/-- With its closures noting their calls a pipeline does what it always does. -/
theorem run_noted (n : Nat) {j k : κ} (p : Pipeline σ V j k) (o : Outcome (V j)) (w : World σ)
    (log : List (Call V)) :
    ((p.noted n).run o).run (w.beside log) = ((p.run o).run w).beside (log ++ p.calls n w o) := by
  induction p generalizing n w log with
  | nil =>
      rw [calls, List.append_nil]
      rfl
  | cons s p ih =>
      have hstep := s.run_noted n o w log
      rcases hs : (s.run o).run w with ⟨exit, w₁, t⟩
      rw [hs] at hstep
      cases exit with
      | value o₁ =>
          rw [noted, run, run, Action.run_bind_of_value hs, Action.run_bind_of_value hstep, ih]
          simp only [calls, hs, List.append_assoc, Run.after_beside]
      | panicked q =>
          rw [noted, run, run, Action.run_bind_of_panic hs, Action.run_bind_of_panic hstep]
          simp only [calls, hs, List.append_nil]
          rfl

end Pipeline

/-! ## The two tracks -/

/-- Where a pipeline has come to: which step is next, the world, and the value or
failure that is carried along. -/
structure Point (σ α : Type) where
  step : Nat
  world : World σ
  current : α

/-- One step on the track of values. Its closure is called with the current value
and makes the next one; an action leaves the value as it is, and one for failures is
not called. -/
inductive Step.Passes : {j k : κ} → Step σ V j k → Point σ (V j) → Point σ (V k) → Trace →
    List (Call V) → Prop
  | map {j k : κ} {form : Form} {f : form.Closure σ (V j) (V k)} {n : Nat} {w w' : World σ}
      {a : V j} {b : V k} {t : Trace} (h : (form.call f a).run w = ⟨.value b, w', t⟩) :
      Passes (.map form f) ⟨n, w, a⟩ ⟨n + 1, w', b⟩ t [.value n a]
  | bind {j k : κ} {form : Form} {f : form.Closure σ (V j) (Outcome (V k))} {n : Nat}
      {w w' : World σ} {a : V j} {b : V k} {t : Trace}
      (h : (form.call f a).run w = ⟨.value (.ok b), w', t⟩) :
      Passes (.bind form f) ⟨n, w, a⟩ ⟨n + 1, w', b⟩ t [.value n a]
  | onSuccess {k : κ} {form : Form} {act : form.Closure σ (V k) Unit} {n : Nat} {w w' : World σ}
      {a : V k} {t : Trace} (h : (form.call act a).run w = ⟨.value (), w', t⟩) :
      Passes (.onSuccess form act) ⟨n, w, a⟩ ⟨n + 1, w', a⟩ t [.value n a]
  | onFailure {k : κ} (form : Form) (act : form.Closure σ Failure Unit) (n : Nat) (w : World σ)
      (a : V k) : Passes (.onFailure form act) ⟨n, w, a⟩ ⟨n + 1, w, a⟩ [] []

/-- One step on the track of failures, where only the action for failures is called. -/
inductive Step.Alarms : {j k : κ} → Step σ V j k → Point σ Failure → Point σ Failure → Trace →
    List (Call V) → Prop
  | map {j k : κ} (form : Form) (f : form.Closure σ (V j) (V k)) (n : Nat) (w : World σ)
      (c : Failure) : Alarms (.map form f) ⟨n, w, c⟩ ⟨n + 1, w, c⟩ [] []
  | bind {j k : κ} (form : Form) (f : form.Closure σ (V j) (Outcome (V k))) (n : Nat)
      (w : World σ) (c : Failure) : Alarms (.bind form f) ⟨n, w, c⟩ ⟨n + 1, w, c⟩ [] []
  | onSuccess {k : κ} (form : Form) (act : form.Closure σ (V k) Unit) (n : Nat) (w : World σ)
      (c : Failure) : Alarms (.onSuccess form act) ⟨n, w, c⟩ ⟨n + 1, w, c⟩ [] []
  | onFailure {k : κ} {form : Form} {act : form.Closure σ Failure Unit} {n : Nat} {w w' : World σ}
      {c : Failure} {t : Trace} (h : (form.call act c).run w = ⟨.value (), w', t⟩) :
      Alarms (.onFailure form act : Step σ V k k) ⟨n, w, c⟩ ⟨n + 1, w', c⟩ t [.failure n c]

/-- The closure of a step panics on the track of values. -/
inductive Step.Breaks : {j k : κ} → Step σ V j k → Point σ (V j) → Panic → World σ → Trace → Prop
  | map {j k : κ} {form : Form} {f : form.Closure σ (V j) (V k)} {x : Point σ (V j)} {q : Panic}
      {w : World σ} {t : Trace} (h : (form.call f x.current).run x.world = ⟨.panicked q, w, t⟩) :
      Breaks (.map form f) x q w t
  | bind {j k : κ} {form : Form} {f : form.Closure σ (V j) (Outcome (V k))} {x : Point σ (V j)}
      {q : Panic} {w : World σ} {t : Trace}
      (h : (form.call f x.current).run x.world = ⟨.panicked q, w, t⟩) :
      Breaks (.bind form f) x q w t
  | onSuccess {k : κ} {form : Form} {act : form.Closure σ (V k) Unit} {x : Point σ (V k)}
      {q : Panic} {w : World σ} {t : Trace}
      (h : (form.call act x.current).run x.world = ⟨.panicked q, w, t⟩) :
      Breaks (.onSuccess form act) x q w t

namespace Pipeline

/-- All steps are taken on the track of values. -/
inductive Passes : {j k : κ} → Pipeline σ V j k → Point σ (V j) → Point σ (V k) → Trace →
    List (Call V) → Prop
  | nil {k : κ} (x : Point σ (V k)) : Passes nil x x [] []
  | cons {i j k : κ} {s : Step σ V i j} {p : Pipeline σ V j k} {x : Point σ (V i)}
      {y : Point σ (V j)} {z : Point σ (V k)} {t₁ t₂ : Trace} {calls₁ calls₂ : List (Call V)}
      (hs : s.Passes x y t₁ calls₁) (hp : Passes p y z t₂ calls₂) :
      Passes (cons s p) x z (t₁ ++ t₂) (calls₁ ++ calls₂)

/-- All steps are taken on the track of failures. -/
inductive Alarms : {j k : κ} → Pipeline σ V j k → Point σ Failure → Point σ Failure → Trace →
    List (Call V) → Prop
  | nil {k : κ} (x : Point σ Failure) : Alarms (nil : Pipeline σ V k k) x x [] []
  | cons {i j k : κ} {s : Step σ V i j} {p : Pipeline σ V j k} {x y z : Point σ Failure}
      {t₁ t₂ : Trace} {calls₁ calls₂ : List (Call V)}
      (hs : s.Alarms x y t₁ calls₁) (hp : Alarms p y z t₂ calls₂) :
      Alarms (cons s p) x z (t₁ ++ t₂) (calls₁ ++ calls₂)

/-- How a pipeline ends that is on the track of failures: it comes to its end, with
the failure that it began with, or the action of one of its steps panics. -/
inductive EndsFailed : {j k : κ} → Pipeline σ V j k → Point σ Failure → Run σ (Outcome (V k)) →
    List (Call V) → Prop
  | failed {j k : κ} {p : Pipeline σ V j k} {n m : Nat} {w w' : World σ} {c : Failure} {t : Trace}
      {calls : List (Call V)} (h : p.Alarms ⟨n, w, c⟩ ⟨m, w', c⟩ t calls) :
      EndsFailed p ⟨n, w, c⟩ ⟨.value (.error c), w', t⟩ calls
  | panicked {i j k : κ} (before : Pipeline σ V i j) {form : Form}
      {act : form.Closure σ Failure Unit} (after : Pipeline σ V j k) {n m : Nat}
      {w₀ w₁ w₂ : World σ} {c : Failure} {q : Panic} {t₁ t₂ : Trace} {calls : List (Call V)}
      (hbefore : before.Alarms ⟨n, w₀, c⟩ ⟨m, w₁, c⟩ t₁ calls)
      (hact : (form.call act c).run w₁ = ⟨.panicked q, w₂, t₂⟩) :
      EndsFailed (before.append (cons (.onFailure form act) after)) ⟨n, w₀, c⟩
        ⟨.panicked q, w₂, t₁ ++ t₂⟩ (calls ++ [.failure m c])

/-- How a pipeline ends. -/
inductive Ends : {j k : κ} → Pipeline σ V j k → Nat → World σ → Outcome (V j) →
    Run σ (Outcome (V k)) → List (Call V) → Prop
  /-- No step fails. -/
  | arrived {j k : κ} {p : Pipeline σ V j k} {n m : Nat} {w w' : World σ} {a : V j} {b : V k}
      {t : Trace} {calls : List (Call V)} (h : p.Passes ⟨n, w, a⟩ ⟨m, w', b⟩ t calls) :
      Ends p n w (.ok a) ⟨.value (.ok b), w', t⟩ calls
  /-- The pipeline starts with a failure. -/
  | failed {j k : κ} {p : Pipeline σ V j k} {n : Nat} {w : World σ} {c : Failure}
      {r : Run σ (Outcome (V k))} {calls : List (Call V)} (h : p.EndsFailed ⟨n, w, c⟩ r calls) :
      Ends p n w (.error c) r calls
  /-- The first closure that yields a failure is that of a `bind`. -/
  | derailed {h i j k : κ} (before : Pipeline σ V h i) {form : Form}
      {f : form.Closure σ (V i) (Outcome (V j))} (after : Pipeline σ V j k) {n m : Nat}
      {w₀ w₁ w₂ : World σ} {a : V h} {b : V i} {c : Failure} {t₁ t₂ : Trace}
      {r : Run σ (Outcome (V k))} {calls₁ calls₂ : List (Call V)}
      (hbefore : before.Passes ⟨n, w₀, a⟩ ⟨m, w₁, b⟩ t₁ calls₁)
      (hf : (form.call f b).run w₁ = ⟨.value (.error c), w₂, t₂⟩)
      (hafter : after.EndsFailed ⟨m + 1, w₂, c⟩ r calls₂) :
      Ends (before.append (cons (.bind form f) after)) n w₀ (.ok a) (r.after (t₁ ++ t₂))
        (calls₁ ++ .value m b :: calls₂)
  /-- A closure panics before any has yielded a failure. -/
  | panicked {h i j k : κ} (before : Pipeline σ V h i) {s : Step σ V i j} (after : Pipeline σ V j k)
      {n m : Nat} {w₀ w₁ w₂ : World σ} {a : V h} {b : V i} {q : Panic} {t₁ t₂ : Trace}
      {calls : List (Call V)} (hbefore : before.Passes ⟨n, w₀, a⟩ ⟨m, w₁, b⟩ t₁ calls)
      (hs : s.Breaks ⟨m, w₁, b⟩ q w₂ t₂) :
      Ends (before.append (cons s after)) n w₀ (.ok a) ⟨.panicked q, w₂, t₁ ++ t₂⟩
        (calls ++ [.value m b])

/-! ## Every pipeline ends on one of the tracks -/

theorem EndsFailed.cons {i j k : κ} {s : Step σ V i j} {p : Pipeline σ V j k} {n m : Nat}
    {w w₁ : World σ} {c : Failure} {t : Trace} {calls calls₁ : List (Call V)}
    {r : Run σ (Outcome (V k))} (hs : s.Alarms ⟨n, w, c⟩ ⟨m, w₁, c⟩ t calls)
    (hp : p.EndsFailed ⟨m, w₁, c⟩ r calls₁) :
    (Pipeline.cons s p).EndsFailed ⟨n, w, c⟩ (r.after t) (calls ++ calls₁) := by
  cases hp with
  | failed h => exact .failed (.cons hs h)
  | panicked before after hbefore hact =>
      have h := panicked _ after (.cons hs hbefore) hact
      rw [List.append_assoc, List.append_assoc] at h
      exact h

/-- A step on the track of failures. -/
theorem run_error_cases {j k : κ} (s : Step σ V j k) (n : Nat) (w : World σ) (c : Failure) :
    (∃ w₁ t, s.Alarms ⟨n, w, c⟩ ⟨n + 1, w₁, c⟩ t (s.calls n (.error c)) ∧
      (s.run (.error c)).run w = ⟨.value (.error c), w₁, t⟩) ∨
    ∃ q w₁ t, (s.run (.error c)).run w = ⟨.panicked q, w₁, t⟩ ∧
      ∀ {l : κ} (p : Pipeline σ V k l),
        (cons s p).EndsFailed ⟨n, w, c⟩ ⟨.panicked q, w₁, t⟩ (s.calls n (.error c)) := by
  cases s with
  | map form f => exact .inl ⟨w, [], .map form f n w c, by rw [run_map_error]; rfl⟩
  | bind form f => exact .inl ⟨w, [], .bind form f n w c, by rw [run_bind_error]; rfl⟩
  | onSuccess form act =>
      exact .inl ⟨w, [], .onSuccess form act n w c, by rw [run_onSuccess_error]; rfl⟩
  | onFailure form act =>
      rcases hact : (form.call act c).run w with ⟨exit, w₁, t⟩
      rw [run_onFailure_error, Action.run_map, hact]
      cases exit with
      | value u => exact .inl ⟨w₁, t, .onFailure hact, rfl⟩
      | panicked q => exact .inr ⟨q, w₁, t, rfl, fun p => .panicked nil p (.nil ⟨n, w, c⟩) hact⟩

theorem endsFailed {j k : κ} (p : Pipeline σ V j k) (n : Nat) (w : World σ) (c : Failure) :
    p.EndsFailed ⟨n, w, c⟩ ((p.run (.error c)).run w) (p.calls n w (.error c)) := by
  induction p generalizing n w with
  | nil => exact .failed (.nil ⟨n, w, c⟩)
  | cons s p ih =>
      rcases run_error_cases s n w c with ⟨w₁, t, hs, hrun⟩ | ⟨q, w₁, t, hrun, hends⟩
      · rw [run, Action.run_bind_of_value hrun, calls, hrun]
        exact .cons hs (ih (n + 1) w₁)
      · rw [run, Action.run_bind_of_panic hrun, calls, hrun, List.append_nil]
        exact hends p

theorem Ends.cons {i j k : κ} {s : Step σ V i j} {p : Pipeline σ V j k} {n m : Nat}
    {w w₁ : World σ} {a : V i} {b : V j} {t : Trace} {calls calls₁ : List (Call V)}
    {r : Run σ (Outcome (V k))} (hs : s.Passes ⟨n, w, a⟩ ⟨m, w₁, b⟩ t calls)
    (hp : p.Ends m w₁ (.ok b) r calls₁) :
    (Pipeline.cons s p).Ends n w (.ok a) (r.after t) (calls ++ calls₁) := by
  cases hp with
  | arrived h => exact .arrived (.cons hs h)
  | derailed before after hbefore hf hafter =>
      have h := derailed _ after (.cons hs hbefore) hf hafter
      rw [List.append_assoc, List.append_assoc] at h
      rw [Run.after_after]
      exact h
  | panicked before after hbefore hbreaks =>
      have h := panicked _ after (.cons hs hbefore) hbreaks
      rw [List.append_assoc, List.append_assoc] at h
      exact h

/-- A step on the track of values. -/
theorem run_ok_cases {j k : κ} (s : Step σ V j k) (n : Nat) (w : World σ) (a : V j) :
    (∃ b w₁ t, s.Passes ⟨n, w, a⟩ ⟨n + 1, w₁, b⟩ t (s.calls n (.ok a)) ∧
      (s.run (.ok a)).run w = ⟨.value (.ok b), w₁, t⟩) ∨
    (∃ c w₁ t, (s.run (.ok a)).run w = ⟨.value (.error c), w₁, t⟩ ∧
      ∀ {l : κ} (p : Pipeline σ V k l) (r : Run σ (Outcome (V l))) (calls : List (Call V)),
        p.EndsFailed ⟨n + 1, w₁, c⟩ r calls →
          (cons s p).Ends n w (.ok a) (r.after t) (s.calls n (.ok a) ++ calls)) ∨
    ∃ q w₁ t, (s.run (.ok a)).run w = ⟨.panicked q, w₁, t⟩ ∧
      ∀ {l : κ} (p : Pipeline σ V k l),
        (cons s p).Ends n w (.ok a) ⟨.panicked q, w₁, t⟩ (s.calls n (.ok a)) := by
  have hstart : (nil : Pipeline σ V j j).Passes ⟨n, w, a⟩ ⟨n, w, a⟩ [] [] := .nil ⟨n, w, a⟩
  cases s with
  | map form f =>
      rcases hf : (form.call f a).run w with ⟨exit, w₁, t⟩
      rw [run_map_ok, Action.run_map, hf]
      cases exit with
      | value b => exact .inl ⟨b, w₁, t, .map hf, rfl⟩
      | panicked q => exact .inr (.inr ⟨q, w₁, t, rfl, fun p => .panicked nil p hstart (.map hf)⟩)
  | bind form f =>
      rcases hf : (form.call f a).run w with ⟨exit, w₁, t⟩
      rw [run_bind_ok, hf]
      cases exit with
      | value o =>
          cases o with
          | ok b => exact .inl ⟨b, w₁, t, .bind hf, rfl⟩
          | error c =>
              exact .inr (.inl ⟨c, w₁, t, rfl, fun p r calls h => .derailed nil p hstart hf h⟩)
      | panicked q => exact .inr (.inr ⟨q, w₁, t, rfl, fun p => .panicked nil p hstart (.bind hf)⟩)
  | onSuccess form act =>
      rcases hact : (form.call act a).run w with ⟨exit, w₁, t⟩
      rw [run_onSuccess_ok, Action.run_map, hact]
      cases exit with
      | value u => exact .inl ⟨a, w₁, t, .onSuccess hact, rfl⟩
      | panicked q =>
          exact .inr (.inr ⟨q, w₁, t, rfl, fun p => .panicked nil p hstart (.onSuccess hact)⟩)
  | onFailure form act =>
      exact .inl ⟨a, w, [], .onFailure form act n w a, by rw [run_onFailure_ok]; rfl⟩

theorem ends {j k : κ} (p : Pipeline σ V j k) (n : Nat) (o : Outcome (V j)) (w : World σ) :
    p.Ends n w o ((p.run o).run w) (p.calls n w o) := by
  induction p generalizing n w with
  | nil =>
      cases o with
      | ok a => exact .arrived (.nil ⟨n, w, a⟩)
      | error c => exact .failed (endsFailed nil n w c)
  | cons s p ih =>
      cases o with
      | error c => exact .failed (endsFailed (cons s p) n w c)
      | ok a =>
          rcases run_ok_cases s n w a with ⟨b, w₁, t, hs, hrun⟩ | ⟨c, w₁, t, hrun, hends⟩ |
            ⟨q, w₁, t, hrun, hends⟩
          · rw [run, Action.run_bind_of_value hrun, calls, hrun]
            exact .cons hs (ih (n + 1) (.ok b) w₁)
          · rw [run, Action.run_bind_of_value hrun, calls, hrun]
            exact hends p _ _ (endsFailed p (n + 1) w₁ c)
          · rw [run, Action.run_bind_of_panic hrun, calls, hrun, List.append_nil]
            exact hends p

/-- A pipeline goes along the track of values, where its closures are called one
after the other with the value that those before have made, and ends with the last
one; unless one of them yields a failure, or the pipeline starts with a failure.
Then only actions for failures are called, each of them once and with this failure,
and the pipeline ends with the very same one. A panic is the end. There are no
calls besides those, for closures that note theirs note just them. -/
theorem ends_on_track {j k : κ} (p : Pipeline σ V j k) (o : Outcome (V j)) (w : World σ) :
    ∃ calls, p.Ends 0 w o ((p.run o).run w) calls ∧
      ∀ log, ((p.noted 0).run o).run (w.beside log) =
        ((p.run o).run w).beside (log ++ calls) :=
  ⟨p.calls 0 w o, p.ends 0 o w, p.run_noted 0 o w⟩

end Pipeline

end Switchboard.Railway
