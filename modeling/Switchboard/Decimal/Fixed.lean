import Switchboard.Binary64
import Switchboard.Decimal.Digits

/-!
# Fixed places

Decimals with a fixed number of places: the exact binary value is rounded,
ties to even. The sign is kept even where all digits are zero.
-/

namespace Switchboard.Decimal

/-- The decimal with at least one place that is nearest to a number. -/
def formatFixed (places : Nat) (x : Binary64) : String :=
  let sign := if x.isNegative then "-" else ""
  if x.isNaN then "NaN"
  else if !x.isFinite then sign ++ "inf"
  else
    let n := roundDiv (x.ratio.1 * pow10 places) x.ratio.2
    let fraction := (digits (n % pow10 places)).map digitChar
    let padded := List.replicate (places - fraction.length) '0' ++ fraction
    sign ++ format (n / pow10 places) ++ "." ++ String.ofList padded

end Switchboard.Decimal
