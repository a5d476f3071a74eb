import Rerun.Float.Format

/-! Arithmetic on bit patterns.  Each result is the exact one rounded once, to nearest
even; where there is none it is the canonical NaN. -/

namespace Rerun

/-- Ways of rounding to an integer. -/
inductive Rounding
  | up | down | towardZero | nearestEven
deriving DecidableEq, Repr

namespace FloatDatum

/-- The exact product. -/
def mul : FloatDatum → FloatDatum → FloatDatum
  | nan, _ | _, nan => nan
  | infinite p, finite q significand _ | finite q significand _, infinite p =>
      if significand = 0 then nan else infinite (p != q)
  | infinite p, infinite q => infinite (p != q)
  | finite p m e, finite q n f => finite (p != q) (m * n) (e + f)

def neg : FloatDatum → FloatDatum
  | nan => nan
  | infinite negative => infinite !negative
  | finite negative significand exponent => finite (!negative) significand exponent

end FloatDatum

/-- The greatest number whose square is at most `n`, found bit by bit below `2 ^ count`. -/
def squareRootFrom (n : Nat) : Nat → Nat → Nat
  | 0, root => root
  | count + 1, root =>
      let next := root + Nat.pow 2 count
      squareRootFrom n count (if next * next ≤ n then next else root)

def squareRoot (n : Nat) : Nat := squareRootFrom n (Nat.log2 n / 2 + 1) 0

namespace FloatFormat

variable (format : FloatFormat)

def ofScaled (negative : Bool) (significand : Nat) (exponent : Int) : Nat :=
  let (num, den) := scaled significand exponent
  format.round negative num den

def ofInfinite (negative : Bool) : Nat := format.withSign negative format.infinity

def ofDatum : FloatDatum → Nat
  | .nan => format.canonicalNaN
  | .infinite negative => format.ofInfinite negative
  | .finite negative significand exponent => format.ofScaled negative significand exponent

/-- A sum that vanishes is negative only where both parts are. -/
def sum : FloatDatum → FloatDatum → Nat
  | .nan, _ | _, .nan => format.canonicalNaN
  | .infinite p, .infinite q => if p = q then format.ofInfinite p else format.canonicalNaN
  | .infinite p, .finite _ _ _ | .finite _ _ _, .infinite p => format.ofInfinite p
  | .finite p m e, .finite q n f =>
      let place := min e f
      let part (negative : Bool) (significand : Nat) (exponent : Int) : Int :=
        let size : Int := significand * Nat.pow 2 (exponent - place).toNat
        if negative then -size else size
      let total := part p m e + part q n f
      if total = 0 then format.withSign (p && q) 0
      else format.ofScaled (total < 0) total.natAbs place

def add (a b : Nat) : Nat := format.sum (format.decode a) (format.decode b)

def sub (a b : Nat) : Nat := format.sum (format.decode a) (format.decode b).neg

def mul (a b : Nat) : Nat := format.ofDatum ((format.decode a).mul (format.decode b))

/-- The product of the first two added to the third, rounded once. -/
def mulAdd (a b c : Nat) : Nat :=
  format.sum ((format.decode a).mul (format.decode b)) (format.decode c)

def div (a b : Nat) : Nat :=
  match format.decode a, format.decode b with
  | .nan, _ | _, .nan | .infinite _, .infinite _ => format.canonicalNaN
  | .infinite p, .finite q _ _ => format.ofInfinite (p != q)
  | .finite p _ _, .infinite q => format.withSign (p != q) 0
  | .finite p m e, .finite q n f =>
      if n = 0 then
        if m = 0 then format.canonicalNaN else format.ofInfinite (p != q)
      else
        let (num, den) := scaled m (e - f)
        format.round (p != q) num (den * n)

/-- The root is taken with two bits to spare; one more marks what is cut off. -/
def sqrt (a : Nat) : Nat :=
  match format.decode a with
  | .nan => format.canonicalNaN
  | .infinite negative => if negative then format.canonicalNaN else a
  | .finite negative significand exponent =>
      if significand = 0 then a
      else if negative then format.canonicalNaN
      else
        let spare := 2 * format.precision + 4
        let shift := if (exponent - spare) % 2 = 0 then spare else spare + 1
        let square := significand * Nat.pow 2 shift
        let root := squareRoot square
        let place := (exponent - shift) / 2
        if root * root = square then format.ofScaled false root place
        else format.ofScaled false (2 * root + 1) (place - 1)

def roundedQuotient (rounding : Rounding) (negative : Bool) (num den : Nat) : Nat :=
  let below := num / den
  let above := if num % den = 0 then below else below + 1
  match rounding with
  | .up => if negative then below else above
  | .down => if negative then above else below
  | .towardZero => below
  | .nearestEven => roundHalfEven num den

/-- The nearest integer of a kind, in the format; a zero keeps the sign. -/
def toIntegral (rounding : Rounding) (a : Nat) : Nat :=
  match format.decode a with
  | .nan => format.canonicalNaN
  | .infinite _ => a
  | .finite negative significand exponent =>
      let (num, den) := scaled significand exponent
      format.round negative (roundedQuotient rounding negative num den) 1

def abs (a : Nat) : Nat := format.magnitude a

def neg (a : Nat) : Nat := format.withSign (!format.isNegative a) (format.magnitude a)

def copySign (a b : Nat) : Nat := format.withSign (format.isNegative b) (format.magnitude a)

/-- Orders numbers by an integer; the two zeros are one. -/
def number (a : Nat) : Int :=
  if format.isNegative a then -(format.magnitude a : Int) else format.magnitude a

/-- Orders numbers by an integer; the negative zero comes first. -/
def place (a : Nat) : Int :=
  if format.isNegative a then -1 - (format.magnitude a : Int) else format.magnitude a

def ordered (a b : Nat) : Bool := !format.isNaN a && !format.isNaN b

def eq (a b : Nat) : Bool := format.ordered a b && format.number a == format.number b

def lt (a b : Nat) : Bool := format.ordered a b && format.number a < format.number b

def le (a b : Nat) : Bool := format.ordered a b && format.number a ≤ format.number b

def min (a b : Nat) : Nat :=
  if format.ordered a b then if format.place a ≤ format.place b then a else b
  else format.canonicalNaN

def max (a b : Nat) : Nat :=
  if format.ordered a b then if format.place a ≤ format.place b then b else a
  else format.canonicalNaN

/-- A number of one format in another. -/
def convert (target : FloatFormat) (a : Nat) : Nat := target.ofDatum (format.decode a)

end FloatFormat

end Rerun
