import Switchboard.Json

/-!
# Writing JSON

The compact form of a document: no blanks, members in their order. In strings
the quote, the backslash and the control characters below U+0020 are escaped,
the latter by their letter where JSON has one; every other character stands
for itself. A number with an exponent shows the sign of the exponent, be it
plus or minus.
-/

namespace Switchboard.Json

/-- A lower-case hexadecimal digit. -/
def hexDigit (n : Nat) : Char :=
  if n < 10 then Char.ofNat (48 + n) else Char.ofNat (87 + n)

def escapeChar (c : Char) : List Char :=
  if c = '"' then ['\\', '"']
  else if c = '\\' then ['\\', '\\']
  else if c = '\x08' then ['\\', 'b']
  else if c = '\x0c' then ['\\', 'f']
  else if c = '\n' then ['\\', 'n']
  else if c = '\r' then ['\\', 'r']
  else if c = '\t' then ['\\', 't']
  else if c.toNat < 0x20 then ['\\', 'u', '0', '0', hexDigit (c.toNat / 16), hexDigit (c.toNat % 16)]
  else [c]

/-- A string literal. A literal without a text has no printed form of its own
and is written as the empty string. -/
def printText (text : Text) : List Char :=
  '"' :: (((text.getD "").toList.flatMap escapeChar) ++ ['"'])

mutual

def chars : Json → List Char
  | .null => ['n', 'u', 'l', 'l']
  | .bool true => ['t', 'r', 'u', 'e']
  | .bool false => ['f', 'a', 'l', 's', 'e']
  | .number x => x.chars .always
  | .string text => printText text
  | .array [] => ['[', ']']
  | .array (item :: items) => '[' :: (item.chars ++ itemsChars items)
  | .object [] => ['{', '}']
  | .object (member :: members) => '{' :: (memberChars member ++ membersChars members)
termination_by structural json => json

/-- The items after the first, and the closing bracket. -/
def itemsChars : List Json → List Char
  | [] => [']']
  | item :: items => ',' :: (item.chars ++ itemsChars items)
termination_by structural items => items

def memberChars : Text × Json → List Char
  | (name, value) => printText name ++ ':' :: value.chars
termination_by structural member => member

/-- The members after the first, and the closing brace. -/
def membersChars : List (Text × Json) → List Char
  | [] => ['}']
  | member :: members => ',' :: (memberChars member ++ membersChars members)
termination_by structural members => members

end

/-- The compact text of a document. -/
def print (json : Json) : String :=
  String.ofList json.chars

end Switchboard.Json
