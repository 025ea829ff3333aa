import Switchboard.Cancellation.Waiter
import Switchboard.Failure

/-!
# Sessions over sources, signals and waiters

A machine that holds any number of sources, signals and waiters, each
numbered in the order of its creation, and the operations on it. A number
that names nothing makes an operation do nothing.
-/

namespace Switchboard.Cancellation

structure Session where
  sources : Sources := []
  signals : List Signal := []
  waiters : List Waiter := []

inductive Operation where
  /-- A new source with a signal of its own. -/
  | source
  /-- Another signal of a source that has not been dropped. -/
  | signal (source : Nat)
  /-- Another signal that observes what this one does. -/
  | clone (signal : Nat)
  /-- A signal that is never cancelled. -/
  | never
  | cancel (source : Nat)
  | drop (source : Nat)
  /-- An outcome that fails once a signal is cancelled. -/
  | check (signal : Nat)
  /-- A new waiter for a signal, not yet polled. -/
  | wait (signal : Nat)
  | poll (waiter : Nat)
deriving Repr

/-- What an operation answers. -/
inductive Reply where
  | done
  | checked (result : Except Failure.Cause Unit)
  | polled (ready : Bool)

namespace Session

def isCancelled (s : Session) (signal : Signal) : Bool :=
  s.sources.isCancelled signal

/-- Fails once a signal is cancelled. -/
def check (s : Session) (signal : Signal) : Except Failure.Cause Unit :=
  if s.isCancelled signal then .error .cancelled else .ok ()

def addSignal (s : Session) (signal : Signal) : Session :=
  { s with signals := s.signals ++ [signal] }

def step (s : Session) : Operation → Reply × Session
  | .source =>
    let grown := { s with sources := s.sources ++ [({} : Source)] }
    (.done, grown.addSignal (.source s.sources.length))
  | .signal id => match s.sources[id]? with
    | some source => (.done, if source.dropped then s else s.addSignal (.source id))
    | none => (.done, s)
  | .clone i => match s.signals[i]? with
    | some signal => (.done, s.addSignal signal)
    | none => (.done, s)
  | .never => (.done, s.addSignal .never)
  | .cancel id => (.done, { s with sources := s.sources.cancel id })
  | .drop id => (.done, { s with sources := s.sources.drop id })
  | .check i => match s.signals[i]? with
    | some signal => (.checked (s.check signal), s)
    | none => (.done, s)
  | .wait i => match s.signals[i]? with
    | some signal => (.done, { s with waiters := s.waiters ++ [{ signal }] })
    | none => (.done, s)
  | .poll i => match s.waiters[i]? with
    | some w =>
      let w := w.poll s.sources
      (.polled w.isReady, { s with waiters := s.waiters.set i w })
    | none => (.done, s)

/-- Which signals are cancelled, in the order of their creation. -/
def cancelled (s : Session) : List Bool :=
  s.signals.map s.isCancelled

/-- Runs operations, each answered with its reply and with the cancelled
signals after it. -/
def run (s : Session) : List Operation → List (Reply × List Bool)
  | [] => []
  | op :: ops =>
    let (reply, s) := s.step op
    (reply, s.cancelled) :: s.run ops

end Session

end Switchboard.Cancellation
