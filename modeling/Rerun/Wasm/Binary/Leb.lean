/-! Integers as bytes of seven bits each, lowest first, every byte but the last with
its high bit set. -/

namespace Rerun.Wasm.Leb

def unsigned (n : Nat) : List UInt8 :=
  if n < 128 then [n.toUInt8] else (n % 128 + 128).toUInt8 :: unsigned (n / 128)

/-- The last byte's second highest bit is the sign. -/
def signed (n : Int) : List UInt8 :=
  let low := (n % 128).toNat
  if -64 ≤ n ∧ n < 64 then [low.toUInt8] else (low + 128).toUInt8 :: signed (n / 128)
termination_by n.natAbs

/-- A number of so many bits as a signed one. -/
def toSigned (width bits : Nat) : Int :=
  if bits < Nat.pow 2 (width - 1) then bits else (bits : Int) - Nat.pow 2 width

end Rerun.Wasm.Leb
