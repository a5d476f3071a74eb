/-! Binary floating-point formats over their bit patterns.  A number is held as
the natural number its bits spell, so that a pattern passes through unchanged
where no arithmetic touches it. -/

namespace Rerun

/-- `precision` counts the significand's bits with the hidden one. -/
structure FloatFormat where
  precision : Nat
  exponentBits : Nat
deriving DecidableEq, Repr

inductive FloatDatum
  | nan
  | infinite (negative : Bool)
  /-- `significand * 2 ^ exponent` -/
  | finite (negative : Bool) (significand : Nat) (exponent : Int)
deriving DecidableEq, Repr

namespace FloatFormat

def single : FloatFormat := ⟨24, 8⟩

def double : FloatFormat := ⟨53, 11⟩

variable (format : FloatFormat)

def fractionBits : Nat := format.precision - 1

def width : Nat := format.precision + format.exponentBits

def bias : Nat := Nat.pow 2 (format.exponentBits - 1) - 1

def maxExponentField : Nat := Nat.pow 2 format.exponentBits - 1

/-- Exponent of the last place of the smallest numbers. -/
def minExponent : Int := 1 - (format.bias : Int) - format.fractionBits

def signBit : Nat := Nat.pow 2 (format.width - 1)

def infinity : Nat := format.maxExponentField * Nat.pow 2 format.fractionBits

def canonicalNaN : Nat := format.infinity + Nat.pow 2 (format.fractionBits - 1)

def isNegative (bits : Nat) : Bool := format.signBit ≤ bits

def magnitude (bits : Nat) : Nat := bits % format.signBit

def withSign (negative : Bool) (magnitude : Nat) : Nat :=
  if negative then format.signBit + magnitude else magnitude

def isNaN (bits : Nat) : Bool := format.infinity < format.magnitude bits

def isInfinite (bits : Nat) : Bool := format.magnitude bits == format.infinity

def isZero (bits : Nat) : Bool := format.magnitude bits == 0

def decode (bits : Nat) : FloatDatum :=
  let negative := format.isNegative bits
  let magnitude := format.magnitude bits
  let field := magnitude / Nat.pow 2 format.fractionBits
  let fraction := magnitude % Nat.pow 2 format.fractionBits
  if field = format.maxExponentField then
    if fraction = 0 then .infinite negative else .nan
  else if field = 0 then .finite negative fraction format.minExponent
  else .finite negative (Nat.pow 2 format.fractionBits + fraction) (format.minExponent + field - 1)

/-- Numerator and denominator of `n * 2 ^ e`. -/
def scaled (n : Nat) (e : Int) : Nat × Nat :=
  (n * Nat.pow 2 e.toNat, Nat.pow 2 (-e).toNat)

/-- `num / den` rounded to an integer, a half going to the even neighbour. -/
def roundHalfEven (num den : Nat) : Nat :=
  let quotient := num / den
  let twice := 2 * (num % den)
  if twice < den then quotient
  else if den < twice then quotient + 1
  else quotient + quotient % 2

/-- The exponent of the last place that a positive `num / den` has in the format. -/
def placeOf (num den : Nat) : Int :=
  let guess : Int := (Nat.log2 num : Int) - Nat.log2 den - format.fractionBits
  let top := Nat.pow 2 format.fractionBits
  let fits (e : Int) : Bool :=
    decide (top * den * Nat.pow 2 e.toNat ≤ num * Nat.pow 2 (-e).toNat)
  max format.minExponent (if fits guess then guess else guess - 1)

/-- Bits of `num / den` rounded to nearest even; too large a number becomes
infinity. -/
def round (negative : Bool) (num den : Nat) : Nat :=
  if num = 0 then format.withSign negative 0
  else
    let place := format.placeOf num den
    let significand := roundHalfEven (num * Nat.pow 2 (-place).toNat) (den * Nat.pow 2 place.toNat)
    -- a carry out of the significand lands in the exponent field, as it should
    let magnitude :=
      significand + ((place - format.minExponent).toNat * Nat.pow 2 format.fractionBits)
    format.withSign negative (min magnitude format.infinity)

/-- Bits of an integer rounded to nearest even. -/
def ofInt (n : Int) : Nat := format.round (n < 0) n.natAbs 1

end FloatFormat

end Rerun
