import Switchboard.Failure
import Switchboard.Json.Record

/-!
# Failures in JSON

A cause is written as an object of its kind, code and message, with the
invalid fields only where there are some. A failure is written as its cause:
which failure it is does not leave the program.
-/

namespace Switchboard

def FieldError.toJson (e : FieldError) : Json :=
  .ofMembers [("field", .ofText e.field), ("message", .ofText e.message)]

def FieldError.ofJson? (json : Json) : Option FieldError := do
  let [field, message] ← Json.fields? ["field", "message"] json | none
  return ⟨← Json.required Json.text? field, ← Json.required Json.text? message⟩

def Failure.Kind.toJson (k : Failure.Kind) : Json :=
  .ofText k.name

def Failure.Cause.toJson (c : Failure.Cause) : Json :=
  .ofMembers <|
    [("kind", c.kind.toJson), ("code", .ofText c.code), ("message", .ofText c.message)] ++
    if c.fields.isEmpty then [] else [("fields", .array (c.fields.map FieldError.toJson))]

def Failure.toJson (f : Failure) : Json :=
  f.cause.toJson

end Switchboard
