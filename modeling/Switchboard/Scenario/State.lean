import Switchboard.Catalog.State
import Switchboard.Mock
import Switchboard.Scenario.Message

/-!
# The state of a scenario

A catalog, the mocks with what they still expect, and how often each factory
has built a component.
-/

namespace Switchboard.Scenario

/-- A mock under the name by which a scenario refers to it. -/
structure NamedMock where
  id : String
  type : Request
  mock : Mock (Reply type)

structure State where
  catalog : Catalog.State := {}
  /-- The names and the request types of the mocks, oldest first. -/
  mocks : List (String × Request) := []
  /-- What the handles on mocks refer to, by request type. -/
  cells : (k : Request) → Mock.Cells (Reply k) := fun _ => {}
  /-- The numbers of builds, by the place of the factory's registration. -/
  builds : List Nat := []

instance : Catalog.Holder State where
  view := State.catalog
  update s catalog := { s with catalog }

namespace State

/-- The mock that a handle refers to. -/
def mock (s : State) (h : Mock.Handle) (k : Request) : Mock (Reply k) :=
  h.read (s.cells k)

def setMock (s : State) (h : Mock.Handle) (k : Request) (mock : Mock (Reply k)) : State :=
  { s with cells := fun i => if hk : k = i then hk ▸ h.write (s.cells k) mock else s.cells i }

/-- Adds a mock; with one of the same name and type it makes a single mock,
which expects what both do. -/
def joinMock (s : State) (m : NamedMock) : State :=
  let h := Mock.Handle.named m.id
  let present := s.mock h m.type
  let joined := s.setMock h m.type { present with pending := present.pending ++ m.mock.pending }
  if s.mocks.any fun (id, type) => id = m.id && type = m.type then joined
  else { joined with mocks := s.mocks ++ [(m.id, m.type)] }

/-- The first mock of a name. -/
def findMock? (s : State) (id : String) : Option NamedMock :=
  (s.mocks.find? (·.1 = id)).map fun (id, type) => { id, type, mock := s.mock (.named id) type }

def buildsOf (s : State) (place : Nat) : Nat :=
  s.builds[place]?.getD 0

/-- Counts one more build. -/
def countBuild (s : State) (place : Nat) : State :=
  let padded := s.builds ++ List.replicate (place + 1 - s.builds.length) 0
  { s with builds := padded.modify place (· + 1) }

end State

end Switchboard.Scenario
