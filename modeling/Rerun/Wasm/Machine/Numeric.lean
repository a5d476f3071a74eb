import Rerun.Float.Arithmetic
import Rerun.Wasm.Machine.Integer

/-! What the operations on numbers give. -/

namespace Rerun.Wasm

def Width.format : Width → FloatFormat
  | .w32 => .single
  | .w64 => .double

namespace FloatUnary

def apply (format : FloatFormat) (f : FloatUnary) (a : Nat) : Nat :=
  match f with
  | abs => format.abs a
  | neg => format.neg a
  | ceil => format.toIntegral .up a
  | floor => format.toIntegral .down a
  | trunc => format.toIntegral .towardZero a
  | nearest => format.toIntegral .nearestEven a
  | sqrt => format.sqrt a

end FloatUnary

namespace FloatBinary

def apply (format : FloatFormat) (f : FloatBinary) (a b : Nat) : Nat :=
  match f with
  | add => format.add a b
  | sub => format.sub a b
  | mul => format.mul a b
  | div => format.div a b
  | min => format.min a b
  | max => format.max a b
  | copysign => format.copySign a b

end FloatBinary

namespace FloatCompare

def holds (format : FloatFormat) (f : FloatCompare) (a b : Nat) : Bool :=
  match f with
  | eq => format.eq a b
  | ne => !format.eq a b
  | lt => format.lt a b
  | gt => format.lt b a
  | le => format.le a b
  | ge => format.le b a

end FloatCompare

/-- The least and the greatest integer of a width. -/
def integerRange (signed : Bool) (width : Nat) : Int × Int :=
  if signed then (-(Nat.pow 2 (width - 1)), Nat.pow 2 (width - 1) - 1) else (0, Nat.pow 2 width - 1)

/-- The nearest integer inside the range of a width. -/
def saturated (signed : Bool) (width : Nat) (n : Int) : Nat :=
  let (low, high) := integerRange signed width
  bitsOfInt width (max low (min high n))

/-- The whole part of a finite number. -/
def wholePart (negative : Bool) (significand : Nat) (exponent : Int) : Int :=
  let (num, den) := FloatFormat.scaled significand exponent
  let size : Int := num / den
  if negative then -size else size

/-- The whole part, where it lies in the range of a width. -/
def truncated (source : FloatFormat) (signed : Bool) (width a : Nat) : Except Trap Nat :=
  match source.decode a with
  | .nan => .error .invalidConversion
  | .infinite _ => .error .integerOverflow
  | .finite negative significand exponent =>
      let n := wholePart negative significand exponent
      let (low, high) := integerRange signed width
      if low ≤ n ∧ n ≤ high then .ok (bitsOfInt width n) else .error .integerOverflow

/-- The whole part, or what comes nearest to it; zero for no number. -/
def truncatedSaturating (source : FloatFormat) (signed : Bool) (width a : Nat) : Nat :=
  match source.decode a with
  | .nan => 0
  | .infinite negative =>
      let (low, high) := integerRange signed width
      bitsOfInt width (if negative then low else high)
  | .finite negative significand exponent =>
      saturated signed width (wholePart negative significand exponent)

namespace Numeric

def isBinary : Numeric → Bool
  | intCompare _ _ | intBinary _ _ | floatCompare _ _ | floatBinary _ _ => true
  | _ => false

/-- The result for one operand, or for two of which `b` lies on top. -/
def apply (f : Numeric) (a b : Nat) : Except Trap Nat :=
  match f with
  | intTest _ => .ok (flag (a == 0))
  | intCompare w f => .ok (flag (f.holds w.bits a b))
  | intUnary w f => .ok (f.apply w.bits a)
  | intBinary w f => f.apply w.bits a b
  | floatCompare w f => .ok (flag (f.holds w.format a b))
  | floatUnary w f => .ok (f.apply w.format a)
  | floatBinary w f => .ok (f.apply w.format a b)
  | wrap => .ok (a % Nat.pow 2 32)
  | extend signed => .ok (if signed then signExtend 32 64 a else a)
  | truncate target source signed false => truncated source.format signed target.bits a
  | truncate target source signed true =>
      .ok (truncatedSaturating source.format signed target.bits a)
  | convert target source signed =>
      .ok (target.format.ofInt (integerOf signed source.bits a))
  | demote => .ok (FloatFormat.double.convert .single a)
  | promote => .ok (FloatFormat.single.convert .double a)
  | reinterpret _ _ => .ok a

end Numeric

end Rerun.Wasm
