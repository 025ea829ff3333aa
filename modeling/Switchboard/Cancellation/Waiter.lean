import Switchboard.Cancellation

/-!
# Waiting for cancellation

A waiter is polled until its signal is cancelled. It does not look at the
signal on every poll: between polls it sleeps on the number of changes that
it has seen, and looks again only when there are more. Once its source is
gone and has nothing new to say, it is stranded and stays so.

A task does not poll a waiter again that has finished: that is a fault of the
task, and a panic in it, which is left out. Here the waiter stays finished.
-/

namespace Switchboard

inductive Waiter.Phase where
  /-- Not polled yet. -/
  | fresh
  /-- Asleep, having seen this many changes. -/
  | asleep (seen : Nat)
  /-- Its source was dropped without cancelling. -/
  | stranded
  | finished
deriving DecidableEq, Repr

structure Waiter where
  signal : Signal
  phase : Waiter.Phase := .fresh
deriving DecidableEq, Repr

namespace Waiter

/-- Looks at a source: finished if it is cancelled, otherwise asleep while
something may still change. -/
def look (s : Source) : Phase :=
  if s.cancelled then .finished
  else if s.dropped then .stranded
  else .asleep s.changes

/-- The phase after a poll. Only the polls up to the first one that finds the waiter
finished are polls that a task may make. -/
def advance (s : Source) : Phase → Phase
  | .fresh => look s
  | .asleep seen =>
    if s.changes ≠ seen then look s
    else if s.dropped then .stranded
    else .asleep seen
  | .stranded => .stranded
  | .finished => .finished

/-- The source behind a signal. A signal without one behaves as if its source
had been dropped at once. -/
def sourceOf (sources : Sources) : Signal → Source
  | .never => Source.drop {}
  | .source id => (sources[id]?).getD (Source.drop {})

def poll (sources : Sources) (w : Waiter) : Waiter :=
  { w with phase := advance (sourceOf sources w.signal) w.phase }

def isReady (w : Waiter) : Bool :=
  w.phase = .finished

end Waiter

end Switchboard
