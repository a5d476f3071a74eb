import Rerun.Float.Format

/-! The shortest decimal that reads back as a given binary number, and its
positional text.

For one, two, … digits the number's two neighbours on that decimal grid are
tried; the first grid with a neighbour inside the interval of reals that round to
the number wins.  Of two such neighbours the nearer is taken, the upper on a tie. -/

namespace Rerun.FloatFormat

/-- A positive decimal `digits * 10 ^ exponent`. -/
structure Decimal where
  digits : Nat
  exponent : Int
deriving DecidableEq, Repr

/-- The least `p` with `num / den < 10 ^ p`, for a positive quotient. -/
def decimalMagnitude (num den : Nat) : Int :=
  if den ≤ num then (Nat.toDigits 10 (num / den)).length
  else
    let length := (Nat.toDigits 10 (den / num)).length
    if den ≤ num * Nat.pow 10 (length - 1) then 2 - (length : Int) else 1 - (length : Int)

/-- The reals that round to a positive finite number, in quarters of its last
place. -/
structure Interval where
  lower : Nat
  value : Nat
  upper : Nat
  closed : Bool
  /-- Exponent of the unit the bounds count. -/
  place : Int

variable (format : FloatFormat)

def interval (significand : Nat) (exponent : Int) : Interval :=
  let narrow := significand = Nat.pow 2 format.fractionBits ∧ format.minExponent < exponent
  { lower := 4 * significand - (if narrow then 1 else 2)
    value := 4 * significand
    upper := 4 * significand + 2
    closed := significand % 2 = 0
    place := exponent - 2 }

/-- The grid point of `count` digits to take, if one lies in the interval. -/
def Interval.onGrid? (i : Interval) (magnitude : Int) (count : Nat) : Option Decimal :=
  let places : Int := count - magnitude
  -- a grid point `d` equals `x` units of the interval iff `d * left = x * right`
  let left := Nat.pow 10 (-places).toNat * Nat.pow 2 (-i.place).toNat
  let right := Nat.pow 10 places.toNat * Nat.pow 2 i.place.toNat
  let below := i.value * right / left
  let inside (d : Nat) : Bool :=
    if i.closed then i.lower * right ≤ d * left && d * left ≤ i.upper * right
    else i.lower * right < d * left && d * left < i.upper * right
  let nearerBelow : Bool :=
    i.value * right - below * left < (below + 1) * left - i.value * right
  match decide (0 < below) && inside below, inside (below + 1) with
  | true, false => some ⟨below, -places⟩
  | false, true => some ⟨below + 1, -places⟩
  | true, true => some ⟨if nearerBelow then below else below + 1, -places⟩
  | false, false => none

/-- Tries `fuel` grids, beginning with `count` digits. -/
def Interval.search (i : Interval) (magnitude : Int) : Nat → Nat → Decimal
  | 0, _ => ⟨0, 0⟩
  | fuel + 1, count =>
      match i.onGrid? magnitude count with
      | some d => d
      | none => i.search magnitude fuel (count + 1)

/-- Digits that always suffice to tell neighbouring numbers apart. -/
def sufficientDigits : Nat := format.precision * 301 / 1000 + 2

def shortest (significand : Nat) (exponent : Int) : Decimal :=
  let (num, den) := scaled significand exponent
  (format.interval significand exponent).search (decimalMagnitude num den)
    (format.sufficientDigits + 1) 1

def zeros (n : Nat) : String := String.ofList (List.replicate n '0')

/-- Digits without exponent, and no digits after the point that are all zero. -/
def Decimal.positional (d : Decimal) : String :=
  let text := (toString d.digits).toList
  if 0 ≤ d.exponent then String.ofList text ++ zeros d.exponent.toNat
  else
    let places := (-d.exponent).toNat
    let padded := List.replicate (places + 1 - text.length) '0' ++ text
    let whole := padded.take (padded.length - places)
    let fraction :=
      ((padded.drop (padded.length - places)).reverse.dropWhile (· == '0')).reverse
    if fraction.isEmpty then String.ofList whole
    else String.ofList (whole ++ '.' :: fraction)

/-- `NaN` has no sign; a zero keeps its sign. -/
def shown (bits : Nat) : String :=
  match format.decode bits with
  | .nan => "NaN"
  | .infinite negative => if negative then "-inf" else "inf"
  | .finite negative significand exponent =>
      (if negative then "-" else "") ++
        if significand = 0 then "0"
        else (format.shortest significand exponent).positional

end Rerun.FloatFormat
