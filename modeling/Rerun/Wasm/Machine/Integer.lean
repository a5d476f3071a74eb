import Rerun.Wasm.Operation
import Rerun.Wasm.Trap

/-! Arithmetic on integers of `width` bits, each held as the natural number that its
bits spell. -/

namespace Rerun.Wasm

/-- The bits of an integer, modulo the width. -/
def bitsOfInt (width : Nat) (n : Int) : Nat := (BitVec.ofInt width n).toNat

/-- The integer that bits mean when the highest one counts negative. -/
def signedOf (width bits : Nat) : Int := (BitVec.ofNat width bits).toInt

def integerOf (signed : Bool) (width bits : Nat) : Int :=
  if signed then signedOf width bits else bits

def flag (holds : Bool) : Nat := if holds then 1 else 0

/-- Bits taken as signed and made `target` bits wide. -/
def signExtend (source target bits : Nat) : Nat :=
  bitsOfInt target (signedOf source (bits % Nat.pow 2 source))

namespace IntUnary

def apply (width : Nat) (f : IntUnary) (a : Nat) : Nat :=
  let x := BitVec.ofNat width a
  match f with
  | clz => x.clz.toNat
  | ctz => x.ctz.toNat
  | popcnt => x.cpop.toNat
  | extendSigned bits => signExtend bits width a

end IntUnary

namespace IntBinary

def apply (width : Nat) (f : IntBinary) (a b : Nat) : Except Trap Nat :=
  let x := BitVec.ofNat width a
  let y := BitVec.ofNat width b
  let amount := b % width
  match f with
  | add => .ok (x + y).toNat
  | sub => .ok (x - y).toNat
  | mul => .ok (x * y).toNat
  | divS =>
      if b = 0 then .error .divisionByZero
      else if x = BitVec.intMin width ∧ y = BitVec.allOnes width then .error .integerOverflow
      else .ok (x.sdiv y).toNat
  | divU => if b = 0 then .error .divisionByZero else .ok (x / y).toNat
  | remS => if b = 0 then .error .divisionByZero else .ok (x.srem y).toNat
  | remU => if b = 0 then .error .divisionByZero else .ok (x % y).toNat
  | and => .ok (x &&& y).toNat
  | or => .ok (x ||| y).toNat
  | xor => .ok (x ^^^ y).toNat
  | shl => .ok (x <<< amount).toNat
  | shrS => .ok (x.sshiftRight amount).toNat
  | shrU => .ok (x >>> amount).toNat
  | rotl => .ok (x.rotateLeft amount).toNat
  | rotr => .ok (x.rotateRight amount).toNat

end IntBinary

namespace IntCompare

def holds (width : Nat) (f : IntCompare) (a b : Nat) : Bool :=
  let x := signedOf width a
  let y := signedOf width b
  match f with
  | eq => a == b
  | ne => a != b
  | ltS => x < y
  | ltU => a < b
  | gtS => y < x
  | gtU => b < a
  | leS => x ≤ y
  | leU => a ≤ b
  | geS => y ≤ x
  | geU => b ≤ a

end IntCompare

end Rerun.Wasm
