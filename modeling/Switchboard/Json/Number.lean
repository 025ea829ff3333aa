import Switchboard.Binary64
import Switchboard.Decimal.Shortest
import Switchboard.Json

/-!
# Numbers in JSON

How numerals stand for the two number types of the records: naturals of 64
bits and binary64 numbers.

A binary64 number is read through a significand of 64 bits. Digits are taken
into it as long as it does not overflow: whole digits from the first one that
would are counted but not read, and so are fraction digits. The significand
is then multiplied or divided by one power of ten, for a power beyond 10³⁰⁸
in steps, and each of these operations rounds. A result that overflows is
refused; one that underflows is zero.

They are written with the fewest digits that read back, positionally from
10⁻⁵ to below 10¹⁶ and with an exponent elsewhere. JSON has no infinities and
no NaN: these are written as `null`.
-/

namespace Switchboard.Json

/-- A natural number below 2⁶⁴, written without sign, fraction or exponent. -/
def natural? : Json → Option Nat
  | .number x =>
    let n := Decimal.ofDigits x.whole
    if !x.negative && x.fraction.isEmpty && x.exponent.isNone && n < UInt64.size then some n else none
  | _ => none

/-- A significand and the power of ten that it is to be multiplied by. -/
structure Scaled where
  significand : Nat
  power : Int

def Scaled.fits (s : Scaled) (digit : Nat) : Bool :=
  s.significand * 10 + digit < UInt64.size

/-- Takes whole digits; from the first one that does not fit each counts as a
power of ten. -/
def Scaled.takeWhole (s : Scaled) : List Nat → Scaled
  | [] => s
  | d :: ds =>
    if s.fits d then takeWhole { s with significand := s.significand * 10 + d } ds
    else { s with power := s.power + (ds.length + 1) }

/-- Takes fraction digits up to the first one that does not fit. -/
def Scaled.takeFraction (s : Scaled) : List Nat → Scaled
  | [] => s
  | d :: ds =>
    if s.fits d then
      takeFraction { significand := s.significand * 10 + d, power := s.power - 1 } ds
    else s

/-- Division by a power of ten, in steps of 10³⁰⁸. -/
def scaleDown (x : Binary64) (power : Nat) : Binary64 :=
  if power ≤ 308 then x.div (.ofNat (pow10 power))
  else if x.isZero then x
  else scaleDown (x.div (.ofNat (pow10 308))) (power - 308)
termination_by power

def Scaled.toBinary64? (s : Scaled) : Option Binary64 :=
  let x := Binary64.ofNat s.significand
  if 0 ≤ s.power then
    if s.power ≤ 308 then
      let y := x.mul (.ofNat (pow10 s.power.toNat))
      if y.isFinite then some y else none
    else if x.isZero then some x
    else none
  else some (scaleDown x (-s.power).toNat)

def binary64? : Json → Option Binary64
  | .number x =>
    let s := (Scaled.takeWhole ⟨0, 0⟩ x.whole).takeFraction x.fraction
    let s := { s with power := s.power + x.exponent.getD 0 }
    s.toBinary64?.map fun y => if x.negative then y.neg else y
  | _ => none

/-- The layout of numbers in JSON. -/
def layout : Decimal.Layout :=
  { lowest := -4, highest := 16, tie := .toEven }

def ofBinary64 (x : Binary64) : Json :=
  if x.isFinite then .number (layout.numeral x) else .null

end Switchboard.Json
