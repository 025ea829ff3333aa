import Switchboard.Json

/-!
# Records in JSON

Reading the fields of a record. A record is an object, whose members may come
in any order and among members of other names, or an array of its fields in
their declared order. Members of other names are skipped, even repeated ones;
a field that is given twice is an error, and so is an array with too many
items. Whether a missing field is an error is for the record to say.
-/

namespace Switchboard.Json

/-- The values of all members of a name. -/
def valuesOf (name : String) (members : List (Text × Json)) : List Json :=
  members.filterMap fun m => if m.1 = some name then some m.2 else none

/-- The value of a field, `some none` if it is missing. -/
def field? (members : List (Text × Json)) (name : String) : Option (Option Json) :=
  match valuesOf name members with
  | [] => some none
  | [value] => some (some value)
  | _ => none

/-- The values of the named fields, in the order of the names. -/
def fields? (names : List String) : Json → Option (List (Option Json))
  | .object members =>
    if members.all (·.1.isSome) then names.mapM (field? members) else none
  | .array items =>
    if items.length ≤ names.length then
      some (items.map some ++ List.replicate (names.length - items.length) none)
    else none
  | _ => none

/-- Reads a field that may be missing. -/
def orDefault {α : Type} (read? : Json → Option α) (default : α) : Option Json → Option α
  | none => some default
  | some json => read? json

/-- Reads a field that must be there. -/
def required {α : Type} (read? : Json → Option α) : Option Json → Option α
  | none => none
  | some json => read? json

def bool? : Json → Option Bool
  | .bool b => some b
  | _ => none

def text? : Json → Option String
  | .string text => text
  | _ => none

/-- The name of a variant without content: a string, or an object whose one
member has that name and the value `null`. -/
def variant? : Json → Option String
  | .string text => text
  | .object [(name, .null)] => name
  | _ => none

end Switchboard.Json
