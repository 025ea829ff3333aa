import Switchboard.Chain
import Switchboard.Decimal.Digits

/-!
# Mock handlers

A mock answers requests from a queue of expected outcomes, oldest first, and
counts its calls. A request that finds the queue empty panics; it is counted
all the same, and the mock can go on being used.

A mock is used through handles, which hold references to its queue and to its
counter. A clone of a handle holds the same references, so that a clone may be
registered and the original kept to see what became of the mock.
-/

namespace Switchboard

structure Mock (R : Type) where
  pending : List (Outcome R) := []
  calls : Nat := 0

namespace Mock

variable {R : Type}

/-- Expects one more request. -/
def expect (m : Mock R) (outcome : Outcome R) : Mock R :=
  { m with pending := m.pending ++ [outcome] }

/-- What a request gets: the oldest expected outcome, or nothing. -/
def serve (m : Mock R) : Option (Outcome R) × Mock R :=
  match m.pending with
  | [] => (none, { m with calls := m.calls + 1 })
  | outcome :: pending => (some outcome, { pending, calls := m.calls + 1 })

/-- The panic of a request that nobody expected. -/
def unexpected : Panic :=
  .text "Unexpected request: no expectation left"

/-- Whether every expectation was met, or the panic that says how many are left. -/
def verify (m : Mock R) : Exit Unit :=
  match m.pending with
  | [] => .value ()
  | left =>
    .panicked (.text
      ("Not all expectations were met. " ++ Decimal.format left.length ++ " remaining"))

/-- A handler that answers from the mock held in a part of the state. -/
def handler {σ M : Type} (view : σ → Mock R) (store : σ → Mock R → σ) : Handler σ M R :=
  fun _ _ => do
    let s ← Action.state
    let (answer, m) := (view s).serve
    Action.setState (store s m)
    match answer with
    | some outcome => pure outcome
    | none => Action.panic unexpected

/-! ## References -/

/-- What references lead to: queues of expected outcomes and counters of calls, under
the names of their places. -/
structure Cells (R : Type) where
  queues : String → List (Outcome R) := fun _ => []
  counters : String → Nat := fun _ => 0

/-- A handle on a mock: its references to a queue and to a counter. -/
structure Handle where
  queue : String
  counter : String

namespace Handle

/-- The handle on the mock of a name, whose queue and counter are found under it. -/
def named (name : String) : Handle :=
  { queue := name, counter := name }

/-- Another handle with the same references. -/
def clone (h : Handle) : Handle :=
  { queue := h.queue, counter := h.counter }

def read (h : Handle) (c : Cells R) : Mock R :=
  { pending := c.queues h.queue, calls := c.counters h.counter }

def write (h : Handle) (c : Cells R) (m : Mock R) : Cells R where
  queues place := if place = h.queue then m.pending else c.queues place
  counters place := if place = h.counter then m.calls else c.counters place

end Handle

end Mock

end Switchboard
