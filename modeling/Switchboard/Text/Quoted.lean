import Switchboard.Text.Unprintable

/-!
# Quoted texts

The form in which texts appear inside diagnostics: between double quotes,
with `"` and `\` escaped by a backslash, NUL, tab, line feed and carriage
return by their letters, and any other code point that has no glyph of its
own by its hexadecimal number in braces.
-/

namespace Switchboard.Text

/-- A code point that stands for itself inside quotes. -/
def isPrintable (c : Char) : Bool :=
  c = ' ' || !(unprintableRuns.any fun run => run.1 ≤ c.toNat && c.toNat ≤ run.2)

def quoteChar (c : Char) : List Char :=
  if c = '"' then ['\\', '"']
  else if c = '\\' then ['\\', '\\']
  else if c = '\x00' then ['\\', '0']
  else if c = '\t' then ['\\', 't']
  else if c = '\n' then ['\\', 'n']
  else if c = '\r' then ['\\', 'r']
  else if isPrintable c then [c]
  else ['\\', 'u', '{'] ++ Nat.toDigits 16 c.toNat ++ ['}']

/-- The text between quotes, its special characters escaped. -/
def quote (s : String) : String :=
  String.ofList ('"' :: (s.toList.flatMap quoteChar ++ ['"']))

end Switchboard.Text
