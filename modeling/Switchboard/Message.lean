import Switchboard.Log

/-!
# Families of message types

Messages come in types, and the types of one application form a family: an
index type `κ` with one index per message type. `Messages κ` says what each
type is called, what its messages carry and how they are shown in logs;
`Requests κ` adds what a request of each type is answered with. Two indices
may share a name. They are still different types.

The sum of two families is a family, so an application can be wired over its
own types together with any others.
-/

namespace Switchboard

class Messages (κ : Type) where
  /-- The short name of a message type, used in logs and errors. -/
  name : κ → String
  /-- What messages of a type carry. -/
  Body : κ → Type
  /-- A message in the form in which logs show it. -/
  describe : (k : κ) → Body k → String

class Requests (κ : Type) extends Messages κ where
  /-- What a request of a type is answered with. -/
  Reply : κ → Type

export Messages (Body)
export Requests (Reply)

instance {κ ι : Type} [Messages κ] [Messages ι] : Messages (κ ⊕ ι) where
  name
    | .inl k => Messages.name k
    | .inr i => Messages.name i
  Body
    | .inl k => Body k
    | .inr i => Body i
  describe
    | .inl k => Messages.describe k
    | .inr i => Messages.describe i

instance {κ ι : Type} [Requests κ] [Requests ι] : Requests (κ ⊕ ι) where
  Reply
    | .inl k => Reply k
    | .inr i => Reply i

/-- The family without any type. -/
instance : Requests Empty where
  name := nofun
  Body := nofun
  describe := nofun
  Reply := nofun

/-! ## Topics -/

/-- The two ways in which messages travel: a request to its one handler, a
notification to every listener. -/
inductive Role where
  | request
  | notification
deriving DecidableEq, Repr

/-- What a chain is run for, as logs name it. -/
structure Topic where
  role : Role
  type : String
deriving DecidableEq, Repr

def Topic.request {κ : Type} [Messages κ] (k : κ) : Topic :=
  ⟨.request, Messages.name k⟩

def Topic.notification {κ : Type} [Messages κ] (k : κ) : Topic :=
  ⟨.notification, Messages.name k⟩

/-- The field that names the message type. -/
def Topic.field (t : Topic) : Field :=
  match t.role with
  | .request => ("request_type", t.type)
  | .notification => ("notification_type", t.type)

end Switchboard
