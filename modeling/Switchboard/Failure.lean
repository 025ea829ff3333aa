/-!
# Failures

Expected failures are values. A `Failure` says what went wrong (`Cause`: a
broad kind, a machine-readable code, a message and, for rejected input, the
invalid fields) and which failure it is: every failure that is made gets a
`mark` of its own, and whoever passes a failure on passes its mark on too.

So there are two comparisons. `a = b` says that both are the very same
failure; `a == b` says that their causes agree, as those of two failures made
apart may.
-/

namespace Switchboard

/-- The broad kind of a failure, which an outer layer maps to its replies. -/
inductive Failure.Kind where
  | validation
  | notFound
  | conflict
  | unauthorized
  | forbidden
  | cancelled
  | unexpected
deriving DecidableEq, Repr

namespace Failure.Kind

def name : Kind → String
  | validation => "validation"
  | notFound => "not_found"
  | conflict => "conflict"
  | unauthorized => "unauthorized"
  | forbidden => "forbidden"
  | cancelled => "cancelled"
  | unexpected => "unexpected"

def all : List Kind :=
  [validation, notFound, conflict, unauthorized, forbidden, cancelled, unexpected]

end Failure.Kind

/-- One invalid field of a rejected input. -/
structure FieldError where
  field : String
  message : String
deriving DecidableEq, Repr

def FieldError.format (e : FieldError) : String :=
  e.field ++ ": " ++ e.message

/-- What went wrong. -/
structure Failure.Cause where
  kind : Failure.Kind
  code : String
  message : String
  fields : List FieldError := []
deriving DecidableEq, Repr

namespace Failure.Cause

/-- Rejected input, with every invalid field. -/
def validation (errors : List FieldError) : Cause :=
  { kind := .validation
    code := "validation"
    message :=
      if errors.isEmpty then "validation failed"
      else "; ".intercalate (errors.map FieldError.format)
    fields := errors }

/-- Rejected input with a single invalid field. -/
def field (name message : String) : Cause :=
  validation [⟨name, message⟩]

def notFound (what : String) : Cause :=
  { kind := .notFound, code := "not_found", message := what ++ " was not found" }

def conflict (message : String) : Cause :=
  { kind := .conflict, code := "conflict", message }

def unauthorized (message : String) : Cause :=
  { kind := .unauthorized, code := "unauthorized", message }

def forbidden (message : String) : Cause :=
  { kind := .forbidden, code := "forbidden", message }

/-- What a chain answers once cancellation has been requested. -/
def cancelled : Cause :=
  { kind := .cancelled, code := "cancelled", message := "operation was cancelled" }

/-- A condition that nobody planned for. -/
def unexpected (message : String) : Cause :=
  { kind := .unexpected, code := "unexpected", message }

def format (c : Cause) : String :=
  c.code ++ ": " ++ c.message

end Failure.Cause

structure Failure where
  /-- Tells this failure from every other one that was made. -/
  mark : Nat
  cause : Failure.Cause
deriving DecidableEq, Repr

namespace Failure

instance : BEq Failure where
  beq a b := decide (a = b) || decide (a.cause = b.cause)

def kind (f : Failure) : Kind := f.cause.kind
def code (f : Failure) : String := f.cause.code
def message (f : Failure) : String := f.cause.message
def fields (f : Failure) : List FieldError := f.cause.fields
def format (f : Failure) : String := f.cause.format

def isKind (f : Failure) (k : Kind) : Bool :=
  f.kind = k

end Failure

/-- The outcome of an operation whose expected failures are values. -/
abbrev Outcome (α : Type) := Except Failure α

end Switchboard
