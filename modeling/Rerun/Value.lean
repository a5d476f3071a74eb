import Rerun.Float.Shortest
import Rerun.Text.Digits

/-! What a program's entry point returns, and how it is shown. -/

namespace Rerun

inductive Value
  | void
  | i32 (value : Int32)
  | i64 (value : Int64)
  /-- Floats are held as bit patterns. -/
  | f32 (bits : UInt32)
  | f64 (bits : UInt64)
  | v128 (bits : BitVec 128)
  /-- References are shown by description only. -/
  | reference (description : String)
  | multiple (values : List Value)
deriving Repr, Inhabited

namespace Value

def shownVector (bits : BitVec 128) : String :=
  "0x" ++ Digits.hexPadded 32 bits.toNat

mutual
/-- Parts of a multiple value are joined by commas; nesting does not show. -/
def shown : Value → String
  | void => "()"
  | i32 value => toString value.toInt
  | i64 value => toString value.toInt
  | f32 bits => FloatFormat.single.shown bits.toNat
  | f64 bits => FloatFormat.double.shown bits.toNat
  | v128 bits => shownVector bits
  | reference description => description
  | multiple values => shownAll values

def shownAll : List Value → String
  | [] => ""
  | [value] => value.shown
  | value :: next :: rest => value.shown ++ ", " ++ shownAll (next :: rest)
end

/-- Equality of floats as numbers: NaN differs from itself and the two zeros
are equal. -/
def sameFloat (format : FloatFormat) (a b : Nat) : Bool :=
  !format.isNaN a && !format.isNaN b &&
    (a == b || (format.isZero a && format.isZero b))

mutual
def same : Value → Value → Bool
  | void, void => true
  | i32 a, i32 b => a == b
  | i64 a, i64 b => a == b
  | f32 a, f32 b => sameFloat .single a.toNat b.toNat
  | f64 a, f64 b => sameFloat .double a.toNat b.toNat
  | v128 a, v128 b => a == b
  | reference a, reference b => a == b
  | multiple as, multiple bs => sameAll as bs
  | _, _ => false

def sameAll : List Value → List Value → Bool
  | [], [] => true
  | a :: as, b :: bs => same a b && sameAll as bs
  | _, _ => false
end

end Value

end Rerun
