/-!
# Blank characters

The Unicode property `White_Space`, and trimming by it. Names, limits and
strategy words are all trimmed with the same `trim`, so a rule that checks a
trimmed text and one that stores it speak of the same text.
-/

namespace Switchboard.Text

/-- Membership in the Unicode property `White_Space` (25 code points). -/
def isBlank (c : Char) : Bool :=
  let n := c.toNat
  (0x9 ≤ n && n ≤ 0xD) || n == 0x20 || n == 0x85 || n == 0xA0 || n == 0x1680 ||
    (0x2000 ≤ n && n ≤ 0x200A) || n == 0x2028 || n == 0x2029 || n == 0x202F ||
    n == 0x205F || n == 0x3000

/-- The characters without the blank ones at either end. -/
def trimChars (cs : List Char) : List Char :=
  ((cs.dropWhile isBlank).reverse.dropWhile isBlank).reverse

/-- The text without the blank characters at either end. -/
def trim (s : String) : String :=
  String.ofList (trimChars s.toList)

/-- Number of characters (code points), the unit in which names are limited. -/
def count (s : String) : Nat :=
  s.toList.length

end Switchboard.Text
