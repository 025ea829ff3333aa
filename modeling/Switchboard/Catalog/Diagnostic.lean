import Switchboard.Catalog.Config
import Switchboard.Catalog.Error
import Switchboard.Text.Described

/-!
# Errors in diagnostics

The full form of errors, with the names of all their parts, in which the
command line reports what ended it.
-/

namespace Switchboard

open Text (describeRecord describeList)

def FieldError.describe (e : FieldError) : String :=
  describeRecord "FieldError" [("field", Text.quote e.field), ("message", Text.quote e.message)]

def Failure.Kind.describe : Failure.Kind → String
  | validation => "Validation"
  | notFound => "NotFound"
  | conflict => "Conflict"
  | unauthorized => "Unauthorized"
  | forbidden => "Forbidden"
  | cancelled => "Cancelled"
  | unexpected => "Unexpected"

def Failure.Cause.describe (c : Failure.Cause) : String :=
  describeRecord "Cause"
    [("kind", c.kind.describe), ("code", Text.quote c.code), ("message", Text.quote c.message),
      ("fields", describeList (c.fields.map FieldError.describe))]

def Failure.describe (f : Failure) : String :=
  describeRecord "Failure" [("cause", f.cause.describe)]

def HandlerFailure.describe (f : HandlerFailure) : String :=
  describeRecord "HandlerFailure"
    [("handler_index", Decimal.format f.index), ("failure", f.failure.describe)]

def DispatchError.describe : DispatchError → String
  | missingHandler type => describeRecord "MissingHandler" [("request_type", Text.quote type)]
  | ambiguousHandler type count =>
    describeRecord "AmbiguousHandler"
      [("request_type", Text.quote type), ("count", Decimal.format count)]
  | notificationFailed type f =>
    describeRecord "NotificationFailed"
      [("notification_type", Text.quote type), ("handler_index", Decimal.format f.index),
        ("source", f.failure.describe)]
  | notificationsFailed type fs =>
    describeRecord "NotificationsFailed"
      [("notification_type", Text.quote type),
        ("failures", describeList (fs.map HandlerFailure.describe))]
  | publishCancelled type delivered =>
    describeRecord "PublishCancelled"
      [("notification_type", Text.quote type), ("delivered", Decimal.format delivered)]

namespace Catalog

def Error.describe : Error → String
  | notFound text => "NotFound(" ++ Text.quote text ++ ")"
  | invalid f => "Invalid(" ++ f.describe ++ ")"
  | duplicate text => "Duplicate(" ++ Text.quote text ++ ")"
  | cancelled => "Cancelled"
  | failed f => "Failed(" ++ f.describe ++ ")"
  | dispatch e => "Dispatch(" ++ e.describe ++ ")"

def ConfigError.describe : ConfigError → String
  | invalidNumber key value =>
    describeRecord "InvalidNumber" [("var", Text.quote key), ("value", Text.quote value)]
  | invalidStrategy key source =>
    describeRecord "InvalidStrategy"
      [("var", Text.quote key), ("source", "ParseStrategyError(" ++ Text.quote source.word ++ ")")]

end Catalog

end Switchboard
