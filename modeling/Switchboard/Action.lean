import Switchboard.Cancellation
import Switchboard.Failure
import Switchboard.Log

/-!
# Actions

Running code as data: an `Action σ α` is a tree of the few things that
handlers and interceptors can do, ending in a value or in a panic. They read
and write the state `σ` of the components, make failures, observe, cancel and
drop cancellation sources, report events and journal entries, and suspend
themselves. They can do nothing else: no action reads a log, lifts a
cancellation or turns back the counter of marks, so what is claimed of all
actions needs no assumption on the code that they came from.

`Action.run` carries an action out in a `World` and answers how it ended, the
world after it and the trace of what it reported. A panic unwinds but takes
nothing back: changes and reports made before it stay.
-/

namespace Switchboard

/-- The payload of a panic: a text, or something that is no text. -/
inductive Panic where
  | text (message : String)
  | other
deriving DecidableEq, Repr

def Panic.message? : Panic → Option String
  | text message => some message
  | other => none

/-- How a piece of work ended. -/
inductive Exit (α : Type) where
  | value (a : α)
  | panicked (payload : Panic)
deriving DecidableEq, Repr

inductive Action (σ α : Type) : Type where
  | done (value : α)
  | panic (payload : Panic)
  | report (r : Report) (rest : Action σ α)
  | get (rest : σ → Action σ α)
  | put (state : σ) (rest : Action σ α)
  /-- Makes a failure, with a mark that no failure had before. -/
  | make (cause : Failure.Cause) (rest : Failure → Action σ α)
  /-- Observes whether a signal is cancelled. -/
  | observe (signal : Signal) (rest : Bool → Action σ α)
  | cancel (source : SourceId) (rest : Action σ α)
  | drop (source : SourceId) (rest : Action σ α)
  /-- Hands control back to the caller until the next poll. -/
  | suspend (rest : Action σ α)

/-- What actions work on. -/
structure World (σ : Type) where
  state : σ
  sources : Sources := []
  /-- The mark of the next failure that is made. -/
  nextMark : Nat := 0

/-- The result of carrying an action out. -/
structure Run (σ α : Type) where
  exit : Exit α
  world : World σ
  trace : Trace

namespace Action

variable {σ α β : Type}

/-! ## Sequencing -/

def bind : Action σ α → (α → Action σ β) → Action σ β
  | done a, f => f a
  | panic p, _ => panic p
  | report r rest, f => report r (rest.bind f)
  | get rest, f => get fun s => (rest s).bind f
  | put s rest, f => put s (rest.bind f)
  | make c rest, f => make c fun x => (rest x).bind f
  | observe sig rest, f => observe sig fun b => (rest b).bind f
  | cancel id rest, f => cancel id (rest.bind f)
  | drop id rest, f => drop id (rest.bind f)
  | suspend rest, f => suspend (rest.bind f)

instance : Monad (Action σ) where
  pure := done
  bind := bind

/-- Catches a panic: the action ends with how the given one ended. -/
def attempt : Action σ α → Action σ (Exit α)
  | done a => done (.value a)
  | panic p => done (.panicked p)
  | report r rest => report r rest.attempt
  | get rest => get fun s => (rest s).attempt
  | put s rest => put s rest.attempt
  | make c rest => make c fun x => (rest x).attempt
  | observe sig rest => observe sig fun b => (rest b).attempt
  | cancel id rest => cancel id rest.attempt
  | drop id rest => drop id rest.attempt
  | suspend rest => suspend rest.attempt

/-- Carries an action out inside a span: each event it reports shows the span
around those of its own. -/
def within (span : Span) : Action σ α → Action σ α
  | done a => done a
  | panic p => panic p
  | report r rest => report (r.inside span) (rest.within span)
  | get rest => get fun s => (rest s).within span
  | put s rest => put s (rest.within span)
  | make c rest => make c fun x => (rest x).within span
  | observe sig rest => observe sig fun b => (rest b).within span
  | cancel id rest => cancel id (rest.within span)
  | drop id rest => drop id (rest.within span)
  | suspend rest => suspend (rest.within span)

/-! ## Single steps -/

def emit (e : Event) : Action σ Unit :=
  report (.event e) (done ())

def log (level : Level) (message : String) (fields : List Field) : Action σ Unit :=
  emit { level, message, fields }

/-- Records a journal entry. -/
def record (text : String) : Action σ Unit :=
  report (.entry text) (done ())

def state : Action σ σ :=
  get done

def setState (s : σ) : Action σ Unit :=
  put s (done ())

def modifyState (f : σ → σ) : Action σ Unit :=
  get fun s => put (f s) (done ())

def fail (cause : Failure.Cause) : Action σ (Outcome α) :=
  make cause fun f => done (.error f)

def isCancelled (signal : Signal) : Action σ Bool :=
  observe signal done

/-- Fails if a signal is cancelled. -/
def check (signal : Signal) : Action σ (Outcome Unit) := do
  if ← isCancelled signal then fail .cancelled else pure (.ok ())

/-- Suspends itself a number of times, then goes on. -/
def delay : Nat → Action σ α → Action σ α
  | 0, a => a
  | n + 1, a => suspend (a.delay n)

/-- Ends the way a finished piece of work ended. -/
def resume : Exit α → Action σ α
  | .value a => done a
  | .panicked p => panic p

/-! ## Carrying actions out -/

def run : Action σ α → World σ → Run σ α
  | done a, w => ⟨.value a, w, []⟩
  | panic p, w => ⟨.panicked p, w, []⟩
  | report r rest, w =>
    let run := rest.run w
    { run with trace := r :: run.trace }
  | get rest, w => (rest w.state).run w
  | put s rest, w => rest.run { w with state := s }
  | make c rest, w => (rest ⟨w.nextMark, c⟩).run { w with nextMark := w.nextMark + 1 }
  | observe sig rest, w => (rest (w.sources.isCancelled sig)).run w
  | cancel id rest, w => rest.run { w with sources := w.sources.cancel id }
  | drop id rest, w => rest.run { w with sources := w.sources.drop id }
  | suspend rest, w => rest.run w

/-- What a single poll of an action leaves: the result, or what is still to
do after it suspended itself. -/
inductive Poll (σ α : Type) where
  | ready (run : Run σ α)
  | pending (rest : Action σ α) (world : World σ) (trace : Trace)

def Poll.after (r : Report) : Poll σ α → Poll σ α
  | .ready run => .ready { run with trace := r :: run.trace }
  | .pending rest w trace => .pending rest w (r :: trace)

/-- Carries an action out up to its end or to its first suspension. -/
def poll : Action σ α → World σ → Poll σ α
  | done a, w => .ready ⟨.value a, w, []⟩
  | panic p, w => .ready ⟨.panicked p, w, []⟩
  | report r rest, w => (rest.poll w).after r
  | get rest, w => (rest w.state).poll w
  | put s rest, w => rest.poll { w with state := s }
  | make c rest, w => (rest ⟨w.nextMark, c⟩).poll { w with nextMark := w.nextMark + 1 }
  | observe sig rest, w => (rest (w.sources.isCancelled sig)).poll w
  | cancel id rest, w => rest.poll { w with sources := w.sources.cancel id }
  | drop id rest, w => rest.poll { w with sources := w.sources.drop id }
  | suspend rest, w => .pending rest w []

/-- How many polls it takes until an action ends. -/
def polls : Action σ α → World σ → Nat
  | done _, _ => 1
  | panic _, _ => 1
  | report _ rest, w => rest.polls w
  | get rest, w => (rest w.state).polls w
  | put s rest, w => rest.polls { w with state := s }
  | make c rest, w => (rest ⟨w.nextMark, c⟩).polls { w with nextMark := w.nextMark + 1 }
  | observe sig rest, w => (rest (w.sources.isCancelled sig)).polls w
  | cancel id rest, w => rest.polls { w with sources := w.sources.cancel id }
  | drop id rest, w => rest.polls { w with sources := w.sources.drop id }
  | suspend rest, w => rest.polls w + 1

end Action

end Switchboard
