import Switchboard.Decimal.Numeral

/-!
# JSON documents

The value of a JSON document, with everything that a strict reader of typed
values may still want to see: numbers are kept as numerals, so that `1`, `1.0`
and `1e0` can be told apart, and objects keep their members in order,
repeated names included.
-/

namespace Switchboard

/-- The content of a string literal: `none` if its escapes leave a surrogate
without its partner, so that the literal is well formed but denotes no text. -/
abbrev Json.Text := Option String

inductive Json where
  | null
  | bool (value : Bool)
  | number (value : Decimal.Numeral)
  | string (text : Json.Text)
  | array (items : List Json)
  | object (members : List (Json.Text × Json))
deriving Inhabited

namespace Json

/-- The string literal that denotes a text. -/
def ofText (s : String) : Json :=
  .string (some s)

/-- An object of named members. -/
def ofMembers (members : List (String × Json)) : Json :=
  .object (members.map fun m => (some m.1, m.2))

def ofNat (n : Nat) : Json :=
  .number (.ofNat n)

end Json

end Switchboard
