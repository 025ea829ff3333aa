import Switchboard.Chain
import Switchboard.Decimal.Digits

/-!
# Validation

Rejects invalid requests before they reach the handler. A validator lists
every problem that it finds; an empty list lets the request pass.
-/

namespace Switchboard.Interceptor

variable {σ M R : Type}

abbrev Validator (M : Type) := M → List FieldError

def validation (topic : Topic) (validate : Validator M) : Interceptor σ M R where
  name := "ValidationBehavior"
  enter request signal _ :=
    match validate request with
    | [] => pure (.forward request signal pure)
    | errors => do
      Action.log .warn "Request rejected by validation"
        [topic.field, ("errors", Decimal.format errors.length)]
      return .answer (← Action.fail (.validation errors))

end Switchboard.Interceptor
