/-!
# Cancellation

A source requests cancellation, its signals observe it. A source that has
been dropped can no longer cancel, but what it requested before stays
requested. `never` is the signal of no source.
-/

namespace Switchboard

/-- A cancellation source. `changes` counts its requests, so that a waiter can
tell whether it has seen the latest one. -/
structure Source where
  cancelled : Bool := false
  dropped : Bool := false
  changes : Nat := 0
deriving DecidableEq, Repr

namespace Source

/-- Requests cancellation; a dropped source stays as it is. -/
def cancel (s : Source) : Source :=
  if s.dropped then s else { s with cancelled := true, changes := s.changes + 1 }

def drop (s : Source) : Source :=
  { s with dropped := true }

end Source

/-- Names a source in a list of sources. -/
abbrev SourceId := Nat

/-- The observing half. -/
inductive Signal where
  | never
  | source (id : SourceId)
deriving DecidableEq, Repr

/-- The sources in the order of their creation. -/
abbrev Sources := List Source

namespace Sources

/-- Whether cancellation has been requested through the source of a signal. -/
def isCancelled (sources : Sources) : Signal → Bool
  | .never => false
  | .source id => match sources[id]? with
    | some s => s.cancelled
    | none => false

def cancel (sources : Sources) (id : SourceId) : Sources :=
  sources.modify id Source.cancel

def drop (sources : Sources) (id : SourceId) : Sources :=
  sources.modify id Source.drop

end Sources

end Switchboard
