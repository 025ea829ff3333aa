import Switchboard.Binary64
import Switchboard.Decimal.Numeral

/-!
# Shortest decimals

The fewest decimal digits that read back as a given finite number. A decimal
reads back as `x` if it lies in the interval of reals that round to `x`; the
ends of that interval belong to it exactly if the significand of `x` is even.
For 1, 2, … 17 digits the two neighbours of `x` on the grid of that many
digits are tried: if any grid point lies in the interval, so does one of
these two. The first grid with a hit wins, and of two hits the nearer one.

Where the written form turns from positional to scientific, and which of two
equally near decimals is taken, is the choice of a `Layout`.
-/

namespace Switchboard.Decimal

/-- `0.d₁d₂…dₖ · 10 ^ point`. -/
structure Scientific where
  digits : List Nat
  point : Int
deriving DecidableEq, Repr

/-- Which of two equally near decimals is taken. -/
inductive Tie where
  | toEven
  | up
deriving DecidableEq, Repr

/-- A finite positive number and the ends of its rounding interval, over a
common denominator. -/
structure Rounding where
  low : Nat
  value : Nat
  high : Nat
  den : Nat
  closed : Bool

/-- Below a power of two the numbers lie twice as dense as above it, so the
interval of such a power reaches only half as far down. -/
def Rounding.of (x : Binary64) : Rounding :=
  let m := x.significand
  let down := if m = Binary64.hiddenBit ∧ 1 < x.exponentField then 1 else 2
  let unit := x.scale - 2
  let num := pow2 unit.toNat
  { low := (4 * m - down) * num
    value := 4 * m * num
    high := (4 * m + 2) * num
    den := pow2 (-unit).toNat
    closed := m % 2 = 0 }

/-- The least `p` with `num / den < 10 ^ p`, for a positive ratio. -/
def pointOf (num den : Nat) : Int :=
  if den ≤ num then (digits (num / den)).length
  else 1 - ((digits ((den - 1) / num)).length : Int)

/-- The grid point of `count` digits to which the number may be shortened. -/
def Rounding.gridPoint? (r : Rounding) (tie : Tie) (point : Int) (count : Nat) : Option Nat :=
  let up := pow10 ((count : Int) - point).toNat
  let den := r.den * pow10 (point - count).toNat
  let value := r.value * up
  let inside (n : Nat) : Bool :=
    if r.closed then r.low * up ≤ n * den && n * den ≤ r.high * up
    else r.low * up < n * den && n * den < r.high * up
  let below := value / den
  let above := below + 1
  match inside below, inside above with
  | false, false => none
  | true, false => some below
  | false, true => some above
  | true, true =>
    let down := value - below * den
    let rise := above * den - value
    if down < rise then some below
    else if rise < down then some above
    else match tie with
      | .toEven => some (if below % 2 = 0 then below else above)
      | .up => some above

def dropTrailingZeros (ds : List Nat) : List Nat :=
  (ds.reverse.dropWhile (· == 0)).reverse

/-- The shortest decimal that reads back as a finite number other than zero;
its sign is left out. -/
def shortest (tie : Tie) (x : Binary64) : Scientific :=
  let r := Rounding.of x
  let point := pointOf r.value r.den
  let hit := (List.range 17).findSome? fun i =>
    (r.gridPoint? tie point (i + 1)).map (·, i + 1)
  match hit with
  | none => ⟨[], point⟩
  | some (n, count) =>
    let ds := digits n
    ⟨dropTrailingZeros ds, point + ds.length - count⟩

/-! ## Layouts -/

/-- Numbers from `10 ^ (lowest - 1)` to below `10 ^ highest` are written
positionally, the others with an exponent. -/
structure Layout where
  lowest : Int
  highest : Int
  tie : Tie

/-- The numeral of a finite number. A positional numeral always has a
fraction, `.0` where the number is integral; a scientific one has a single
digit before the point and no empty fraction. -/
def Layout.numeral (layout : Layout) (x : Binary64) : Numeral :=
  if x.isZero then
    { negative := x.isNegative, whole := [0], fraction := [0] }
  else
    let s := shortest layout.tie x
    if layout.lowest ≤ s.point ∧ s.point ≤ layout.highest then
      if 0 < s.point then
        let padded := s.digits ++ List.replicate (s.point - s.digits.length).toNat 0
        let fraction := padded.drop s.point.toNat
        { negative := x.isNegative
          whole := padded.take s.point.toNat
          fraction := if fraction.isEmpty then [0] else fraction }
      else
        { negative := x.isNegative
          whole := [0]
          fraction := List.replicate (-s.point).toNat 0 ++ s.digits }
    else
      { negative := x.isNegative
        whole := s.digits.take 1
        fraction := s.digits.drop 1
        exponent := some (s.point - 1) }

/-- Numbers in diagnostics: positional from 0.0001 to below 10¹⁶. -/
def diagnostic : Layout :=
  { lowest := -3, highest := 16, tie := .up }

/-- The diagnostic form of any number: infinities and NaN by name, and no plus
sign before an exponent. -/
def formatDiagnostic (x : Binary64) : String :=
  if x.isNaN then "NaN"
  else if x.isFinite then (diagnostic.numeral x).format .onlyMinus
  else if x.isNegative then "-inf" else "inf"

end Switchboard.Decimal
