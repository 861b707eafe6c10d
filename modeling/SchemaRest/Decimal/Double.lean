import SchemaRest.Text.Numeral

/-!
# Binary64 numbers

A finite double is a sign and a whole number of the smallest positive double, `2 ^ (-1074)`. All
rounding is to the nearest representable number, a half to the even neighbour, and is done on
quotients of whole numbers. Infinities and NaN are left out: no value here can hold one, so an
operation whose result is too large has no result.
-/

namespace SchemaRest

structure Double where
  negative : Bool
  /-- The magnitude in units of `2 ^ (-1074)`. -/
  units : Nat
  deriving DecidableEq, Repr

namespace Double

/-- `n / d` to the nearest whole number, a half to the even one. -/
def roundDiv (n d : Nat) : Nat :=
  let q := n / d
  let r := n % d
  if 2 * r < d then q
  else if d < 2 * r then q + 1
  else if q % 2 = 0 then q else q + 1

/-- The distance between neighbours, as an exponent of two in units: `precision` bits count, and
the grid is never finer than `2 ^ finest`. -/
def gridExponent (precision finest magnitude : Nat) : Nat :=
  if magnitude = 0 then finest else max finest (magnitude.log2 + 1 - precision)

/-- `n / d` units to the nearest point of a format's grid. -/
def roundToGrid (precision finest n d : Nat) : Nat :=
  let grid := Nat.pow 2 (gridExponent precision finest (n / d))
  roundDiv n (d * grid) * grid

/-- One unit more than every finite double: `2 ^ 1024`. -/
def unitsLimit : Nat := Nat.pow 2 2098

/-- The number one, in units. -/
def one : Nat := Nat.pow 2 1074

def zero (negative : Bool) : Double := ⟨negative, 0⟩

/-- The double nearest to `n / d` units. -/
def ofUnitRatio? (negative : Bool) (n d : Nat) : Option Double :=
  let units := roundToGrid 53 0 n d
  if units < unitsLimit then some ⟨negative, units⟩ else none

def ofRatio? (negative : Bool) (n d : Nat) : Option Double := ofUnitRatio? negative (n * one) d

/-- The double nearest to a whole number below `2 ^ 1024`. -/
def ofNat? (negative : Bool) (n : Nat) : Option Double := ofRatio? negative n 1

def mul? (a b : Double) : Option Double :=
  ofUnitRatio? (a.negative != b.negative) (a.units * b.units) one

/-- The quotient by a double other than zero. -/
def div? (a b : Double) : Option Double :=
  ofUnitRatio? (a.negative != b.negative) (a.units * one) b.units

def negate (a : Double) : Double := ⟨!a.negative, a.units⟩

def isZero (a : Double) : Bool := a.units == 0

/-- Equality of the numbers: the two zeros are one number. -/
def sameNumber (a b : Double) : Bool :=
  a.units == b.units && (a.negative == b.negative || a.units == 0)

/-- The double nearest to `m * 10 ^ e`, whatever the size of `e`. -/
def ofDecimal? (negative : Bool) (m : Nat) (e : Int) : Option Double :=
  if m = 0 then some (zero negative)
  else
    let digits : Int := (Nat.repr m).length
    if digits + e > 310 then none
    else if digits + e < -330 then some (zero negative)
    else if 0 ≤ e then ofRatio? negative (m * Nat.pow 10 e.toNat) 1
    else ofRatio? negative m (Nat.pow 10 (-e).toNat)

/-- The number rounded to 24 bits of precision with exponents from -149, and read again as a double:
the way of a value through a 32 bit column. -/
def narrowed? (a : Double) : Option Double :=
  let units := roundToGrid 24 925 a.units 1
  if units < Nat.pow 2 (1074 + 128) then some ⟨a.negative, units⟩ else none

/-- The interchange encoding: sign, eleven bits of exponent, fifty-two of fraction. -/
def bits (a : Double) : Nat :=
  let sign := if a.negative then Nat.pow 2 63 else 0
  if a.units < Nat.pow 2 52 then sign + a.units
  else
    let k := a.units.log2 - 52
    sign + (k + 1) * Nat.pow 2 52 + (a.units / Nat.pow 2 k - Nat.pow 2 52)

def bitsText (a : Double) : String := String.ofList (Text.hexChars 16 a.bits)

end Double

end SchemaRest
