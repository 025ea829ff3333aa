import Switchboard.Decimal.Rounding
import Switchboard.Power

/-!
# Binary floating-point numbers of 64 bits

Numbers in the format binary64, held as their 64 bits: a sign, 11 bits of
biased exponent and 52 bits of fraction. Every question about a number is
answered from these fields, so two numbers are the same value of this type
exactly if they agree bit for bit; `Binary64.same` is the comparison of
numbers, for which a NaN differs from itself and the two zeros agree.

`ofRatio` rounds a ratio of naturals to the nearest number of the format,
ties to even, overflowing to infinity. Products and quotients are rounded
through it.
-/

namespace Switchboard

structure Binary64 where
  bits : UInt64
deriving DecidableEq, Repr, Inhabited

namespace Binary64

/-- The place value of the sign bit. -/
def signBit : Nat := 0x8000000000000000

/-- The place value of the lowest bit of the exponent field. A normal number
has this bit in its significand without storing it there. -/
def hiddenBit : Nat := 0x10000000000000

def isNegative (x : Binary64) : Bool :=
  decide (signBit ≤ x.bits.toNat)

/-- The exponent field, 0 for zeros and subnormal numbers, 2047 for
infinities and NaNs. -/
def exponentField (x : Binary64) : Nat :=
  x.bits.toNat / hiddenBit % 2048

def fractionField (x : Binary64) : Nat :=
  x.bits.toNat % hiddenBit

def isFinite (x : Binary64) : Bool :=
  x.exponentField != 2047

def isNaN (x : Binary64) : Bool :=
  x.exponentField == 2047 && x.fractionField != 0

def isZero (x : Binary64) : Bool :=
  x.exponentField == 0 && x.fractionField == 0

/-- Strictly above zero, infinity included. -/
def isPositive (x : Binary64) : Bool :=
  !x.isNaN && !x.isZero && !x.isNegative

/-- The integer `m` of a finite number `± m · 2 ^ scale`. -/
def significand (x : Binary64) : Nat :=
  if x.exponentField = 0 then x.fractionField else hiddenBit + x.fractionField

/-- The exponent of a finite number `± significand · 2 ^ scale`. -/
def scale (x : Binary64) : Int :=
  (max 1 x.exponentField : Nat) - 1075

/-- Equality of numbers: no NaN equals anything, and the zeros agree. -/
def same (x y : Binary64) : Bool :=
  !x.isNaN && !y.isNaN && (x.bits == y.bits || (x.isZero && y.isZero))

/-- The number with the sign, exponent field and fraction given by `sign` and
by `magnitude`, the 63 bits below the sign. -/
def ofMagnitude (negative : Bool) (magnitude : Nat) : Binary64 :=
  ⟨UInt64.ofNat ((if negative then signBit else 0) + magnitude)⟩

def infinity (negative : Bool) : Binary64 :=
  ofMagnitude negative (2047 * hiddenBit)

def zero (negative : Bool) : Binary64 :=
  ofMagnitude negative 0

/-- The power of two to which `num / den` is rounded: the one that leaves 53
binary digits before the point, but never below the subnormal unit. -/
def unitOf (num den : Nat) : Int :=
  let top : Int := (num.log2 : Int) - den.log2
  let reachesTop :=
    if 0 ≤ top then decide (den * pow2 top.toNat ≤ num)
    else decide (den ≤ num * pow2 (-top).toNat)
  max (-1074) (if reachesTop then top - 52 else top - 53)

/-- The number nearest to `± num / den`, ties to even. -/
def ofRatio (negative : Bool) (num den : Nat) : Binary64 :=
  if num = 0 then zero negative
  else
    let unit := unitOf num den
    let m :=
      if 0 ≤ unit then Decimal.roundDiv num (den * pow2 unit.toNat)
      else Decimal.roundDiv (num * pow2 (-unit).toNat) den
    -- a significand of 54 digits after rounding up carries into the exponent
    let magnitude := (unit + 1074).toNat * hiddenBit + m
    if 2047 * hiddenBit ≤ magnitude then infinity negative else ofMagnitude negative magnitude

def ofNat (n : Nat) : Binary64 :=
  ofRatio false n 1

/-- The finite number as a ratio of naturals, its sign left out. -/
def ratio (x : Binary64) : Nat × Nat :=
  if 0 ≤ x.scale then (x.significand * pow2 x.scale.toNat, 1)
  else (x.significand, pow2 (-x.scale).toNat)

/-- The rounded product of two finite non-negative numbers. -/
def mul (x y : Binary64) : Binary64 :=
  ofRatio false (x.ratio.1 * y.ratio.1) (x.ratio.2 * y.ratio.2)

/-- The rounded quotient of two finite non-negative numbers, the second one
not zero. -/
def div (x y : Binary64) : Binary64 :=
  ofRatio false (x.ratio.1 * y.ratio.2) (x.ratio.2 * y.ratio.1)

def neg (x : Binary64) : Binary64 :=
  ⟨x.bits ^^^ 0x8000000000000000⟩

theorem eq_of_toNat {x y : Binary64} (h : x.bits.toNat = y.bits.toNat) : x = y := by
  obtain ⟨x⟩ := x
  obtain ⟨y⟩ := y
  exact congrArg mk (UInt64.toNat_inj.mp h)

/-- The numbers that are not finite are the NaNs and the two infinities. -/
theorem isFinite_eq_false_iff (x : Binary64) :
    x.isFinite = false ↔ x.isNaN ∨ x = infinity false ∨ x = infinity true := by
  simp only [isFinite, bne_eq_false_iff_eq, isNaN, Bool.and_eq_true, beq_iff_eq, bne_iff_ne]
  constructor
  · intro hexp
    by_cases hfrac : x.fractionField = 0
    · right
      have hlt := x.bits.toNat_lt
      simp only [exponentField, fractionField, hiddenBit] at hexp hfrac
      have hbits : x.bits.toNat = 0x7FF0000000000000 ∨ x.bits.toNat = 0xFFF0000000000000 := by
        omega
      exact hbits.imp eq_of_toNat eq_of_toNat
    · exact Or.inl ⟨hexp, hfrac⟩
  · rintro (⟨hexp, -⟩ | rfl | rfl)
    · exact hexp
    · rfl
    · rfl

end Binary64

end Switchboard
