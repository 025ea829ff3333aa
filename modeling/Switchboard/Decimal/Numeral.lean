import Switchboard.Decimal.Digits

/-!
# Decimal numerals

A numeral as it is written: sign, digits before the point, digits after it
and a power of ten. Distinct numerals may denote the same number; readers
that care about the spelling (is there a fraction, is there an exponent)
look at the numeral, not at its value.
-/

namespace Switchboard.Decimal

structure Numeral where
  negative : Bool := false
  whole : List Nat
  fraction : List Nat := []
  exponent : Option Int := none
deriving DecidableEq, Repr

/-- Whether an exponent that is not negative is written with a plus sign. -/
inductive ExponentSign where
  | always
  | onlyMinus
deriving DecidableEq, Repr

/-- The characters of an exponent, from its `e` on. -/
def exponentChars (sign : ExponentSign) (e : Int) : List Char :=
  match sign with
  | .onlyMinus => 'e' :: (formatInt e).toList
  | .always => if e < 0 then 'e' :: (formatInt e).toList else 'e' :: '+' :: (formatInt e).toList

namespace Numeral

/-- The numeral of a natural number. -/
def ofNat (n : Nat) : Numeral :=
  { whole := digits n }

private def digitChars (ds : List Nat) : List Char :=
  ds.map digitChar

/-- The characters of a numeral: `-12.5e-3`. A numeral without fraction or
exponent has no point or `e`. -/
def chars (sign : ExponentSign) (x : Numeral) : List Char :=
  (if x.negative then ['-'] else []) ++ digitChars x.whole ++
    (if x.fraction.isEmpty then [] else '.' :: digitChars x.fraction) ++
    match x.exponent with
    | none => []
    | some e => exponentChars sign e

def format (sign : ExponentSign) (x : Numeral) : String :=
  String.ofList (x.chars sign)

end Numeral

end Switchboard.Decimal
