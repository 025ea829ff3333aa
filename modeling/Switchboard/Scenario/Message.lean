import Switchboard.Catalog.Message
import Switchboard.Decimal.Digits

/-!
# Messages of scenarios

The message types that scenarios exchange: those of the catalog, and some with
no meaning of their own. The latter answer a request with what it carries.
`Wrapper` is one generic type taken at two arguments: two message types that
share the name `Wrapper`.
-/

namespace Switchboard.Scenario

structure Alpha where
  value : Int64

structure Beta where
  text : String

structure Gamma where

structure Wrapper (α : Type) where
  inner : α

structure Tick where
  value : Int64

structure Tock where

inductive PlainRequest where
  | alpha
  | beta
  | gamma
  | wrapperAlpha
  | wrapperBeta
deriving DecidableEq, Repr

inductive PlainNotification where
  | tick
  | tock
deriving DecidableEq, Repr

def Alpha.describe (m : Alpha) : String :=
  Text.describeRecord "Alpha" [("value", Decimal.formatInt m.value.toInt)]

def Beta.describe (m : Beta) : String :=
  Text.describeRecord "Beta" [("text", Text.quote m.text)]

def Wrapper.describe {α : Type} (describe : α → String) (m : Wrapper α) : String :=
  Text.describeRecord "Wrapper" [("inner", describe m.inner)]

def Tick.describe (m : Tick) : String :=
  Text.describeRecord "Tick" [("value", Decimal.formatInt m.value.toInt)]

instance : Requests PlainRequest where
  name
    | .alpha => "Alpha"
    | .beta => "Beta"
    | .gamma => "Gamma"
    | .wrapperAlpha => "Wrapper"
    | .wrapperBeta => "Wrapper"
  Body
    | .alpha => Alpha
    | .beta => Beta
    | .gamma => Gamma
    | .wrapperAlpha => Wrapper Alpha
    | .wrapperBeta => Wrapper Beta
  describe
    | .alpha => Alpha.describe
    | .beta => Beta.describe
    | .gamma => fun _ => "Gamma"
    | .wrapperAlpha => Wrapper.describe Alpha.describe
    | .wrapperBeta => Wrapper.describe Beta.describe
  Reply
    | .alpha => Int64
    | .beta => String
    | .gamma => Unit
    | .wrapperAlpha => Int64
    | .wrapperBeta => String

instance : Messages PlainNotification where
  name
    | .tick => "Tick"
    | .tock => "Tock"
  Body
    | .tick => Tick
    | .tock => Tock
  describe
    | .tick => Tick.describe
    | .tock => fun _ => "Tock"

abbrev Request := Catalog.Request ⊕ PlainRequest
abbrev Notification := Catalog.Notification ⊕ PlainNotification

/-! ## Replies -/

/-- The reply that says nothing. -/
def blank : (k : Request) → Reply k
  | .inl .create => (⟨0⟩ : Catalog.ItemId)
  | .inl .get => (none : Option Catalog.Item)
  | .inl .rename => ({ id := ⟨0⟩, name := "", price := .zero false } : Catalog.Item)
  | .inl .delete => ()
  | .inr .alpha => (0 : Int64)
  | .inr .beta => ""
  | .inr .gamma => ()
  | .inr .wrapperAlpha => (0 : Int64)
  | .inr .wrapperBeta => ""

/-- The reply that repeats a request, where the request carries one. -/
def echo : (k : Request) → Body k → Reply k
  | .inl k, _ => blank (.inl k)
  | .inr .alpha, (m : Alpha) => m.value
  | .inr .beta, (m : Beta) => m.text
  | .inr .gamma, _ => ()
  | .inr .wrapperAlpha, (m : Wrapper Alpha) => m.inner.value
  | .inr .wrapperBeta, (m : Wrapper Beta) => m.inner.text

/-- A visible change to a reply: numbers grow, texts get a tail, and other
replies stay as they are. -/
def bump (n : Int64) : (k : Request) → Reply k → Reply k
  | .inr .alpha, (x : Int64) => x + n
  | .inr .wrapperAlpha, (x : Int64) => x + n
  | .inr .beta, (s : String) => s ++ "+" ++ Decimal.formatInt n.toInt
  | .inr .wrapperBeta, (s : String) => s ++ "+" ++ Decimal.formatInt n.toInt
  | .inl _, r => r
  | .inr .gamma, r => r

/-- The name of a request type under which it is told from all others. -/
def requestLabel : Request → String
  | .inr .wrapperAlpha => "WrapperAlpha"
  | .inr .wrapperBeta => "WrapperBeta"
  | k => Messages.name k

end Switchboard.Scenario
