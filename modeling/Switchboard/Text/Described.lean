import Switchboard.Text.Quoted

/-!
# Described values

How structured values are shown in diagnostics: a record by its name and all
its fields, a list between brackets.
-/

namespace Switchboard.Text

/-- A record: its name, and in braces its fields with their values. -/
def describeRecord (name : String) (fields : List (String × String)) : String :=
  name ++ " \x7b " ++ ", ".intercalate (fields.map fun f => f.1 ++ ": " ++ f.2) ++ " \x7d"

def describeList (items : List String) : String :=
  "[" ++ ", ".intercalate items ++ "]"

end Switchboard.Text
