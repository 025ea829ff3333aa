/-!
# Log events and traces

What running code lets an observer see. An `Event` has a level, a message and
named fields, all as text, and the spans in which it occurred, outermost
first. A `Trace` is the list of everything a piece of work reported, oldest
first: log events and, apart from them, the entries of a journal in which
test doubles record what ran.
-/

namespace Switchboard

inductive Level where
  | debug
  | info
  | warn
  | error
deriving DecidableEq, Repr

namespace Level

def name : Level → String
  | debug => "DEBUG"
  | info => "INFO"
  | warn => "WARN"
  | error => "ERROR"

def severity : Level → Nat
  | debug => 0
  | info => 1
  | warn => 2
  | error => 3

def all : List Level :=
  [debug, info, warn, error]

end Level

/-- The name of a field and its value. -/
abbrev Field := String × String

structure Span where
  name : String
  fields : List Field
deriving DecidableEq, Repr

structure Event where
  level : Level
  message : String
  fields : List Field
  spans : List Span := []
  /-- The text that the event was reported with, where a field of its own has
  taken the place of that text as the message. -/
  headline : Option String := none
deriving DecidableEq, Repr

/-- The event as it is seen from outside a span. -/
def Event.inside (span : Span) (e : Event) : Event :=
  { e with spans := span :: e.spans }

/-- One thing that running code reports. -/
inductive Report where
  | event (e : Event)
  | entry (text : String)
deriving DecidableEq, Repr

def Report.inside (span : Span) : Report → Report
  | .event e => .event (e.inside span)
  | .entry text => .entry text

abbrev Trace := List Report

namespace Trace

def events (trace : Trace) : List Event :=
  trace.filterMap fun
    | .event e => some e
    | .entry _ => none

/-- The journal entries. -/
def journal (trace : Trace) : List String :=
  trace.filterMap fun
    | .event _ => none
    | .entry text => some text

end Trace

end Switchboard
