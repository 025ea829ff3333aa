import Switchboard.Decimal.Digits
import Switchboard.Outcome.Pipeline

/-!
# Pipelines on integers

A small stock of closures over 64-bit integers, described as data, from which
pipelines can be put together. The arithmetic wraps around.
-/

namespace Switchboard.Pipeline

variable {σ : Type}

/-- Functions on values. -/
inductive ValueFunction where
  | add (n : Int64)
  | mul (n : Int64)
  | neg
  | const (n : Int64)
  | id
deriving Repr

def ValueFunction.apply : ValueFunction → Int64 → Int64
  | .add n, x => x + n
  | .mul n, x => x * n
  | .neg, x => -x
  | .const n, _ => n
  | .id, x => x

/-- Functions from values to outcomes. -/
inductive BindFunction where
  /-- Halves even numbers and refuses odd ones. -/
  | halfEven
  /-- Refuses numbers that are not positive. -/
  | positive (failure : Failure)
  | fail (failure : Failure)
  | value (f : ValueFunction)

def BindFunction.apply : BindFunction → Int64 → Action σ (Outcome Int64)
  | .halfEven, x =>
    if x % 2 = 0 then pure (.ok (x / 2)) else Action.fail (.field "x" "must be even")
  | .positive failure, x => pure (if 0 < x then .ok x else .error failure)
  | .fail failure, _ => pure (.error failure)
  | .value f, x => pure (.ok (f.apply x))

/-- Functions from failures to outcomes. -/
inductive ErrorFunction where
  | recover (n : Int64)
  /-- The number of characters of the code. -/
  | codeLength
  | replace (failure : Failure)
  | same

def ErrorFunction.apply : ErrorFunction → Failure → Action σ (Outcome Int64)
  | .recover n, _ => pure (.ok n)
  | .codeLength, e => pure (.ok (Int64.ofNat e.code.length))
  | .replace failure, _ => pure (.error failure)
  | .same, e => pure (.error e)

/-- A closure that applies a function, or panics when it is called. -/
inductive Closure (φ : Type) where
  | apply (f : φ)
  | panic (message : String)

def Closure.call {φ β τ : Type} (closure : Closure φ) (apply : φ → β → Action σ τ) (b : β) :
    Action σ τ :=
  match closure with
  | .apply f => apply f b
  | .panic message => Action.panic (.text message)

/-- A step over integers, described as data. The two actions for effect record
what they were called with. -/
inductive Arithmetic where
  | map (f : Closure ValueFunction)
  | bind (f : Closure BindFunction)
  | onSuccess (f : Closure Unit)
  | onFailure (f : Closure Unit)
  | fold (f : Closure BindFunction) (g : Closure ErrorFunction)

def Arithmetic.step : Arithmetic → Step σ Int64
  | .map f => .map (f.call fun f x => pure (f.apply x))
  | .bind f => .bind (f.call BindFunction.apply)
  | .onSuccess f => .onSuccess (f.call fun _ x => Action.record ("ok " ++ Decimal.formatInt x.toInt))
  | .onFailure f => .onFailure (f.call fun _ e => Action.record ("err " ++ e.format))
  | .fold f g => .fold (f.call BindFunction.apply) (g.call ErrorFunction.apply)

end Switchboard.Pipeline
