/-! Reasons for which a running program is stopped. -/

namespace Rerun.Wasm

inductive Trap
  | unreachable
  | divisionByZero
  | integerOverflow
  | invalidConversion
  | memoryAccess
  | unalignedAtomic
  | tableAccess
  | nullCall
  | signatureMismatch
  | waitOnPrivateMemory
  | stackExhausted
  | outOfFuel
deriving DecidableEq, Repr

def Trap.reason : Trap → String
  | unreachable => "wasm `unreachable` instruction executed"
  | divisionByZero => "integer divide by zero"
  | integerOverflow => "integer overflow"
  | invalidConversion => "invalid conversion to integer"
  | memoryAccess => "out of bounds memory access"
  | unalignedAtomic => "unaligned atomic"
  | tableAccess => "undefined element: out of bounds table access"
  | nullCall => "uninitialized element"
  | signatureMismatch => "indirect call type mismatch"
  | waitOnPrivateMemory => "atomic wait on non-shared memory"
  | stackExhausted => "call stack exhausted"
  | outOfFuel => "all fuel consumed by WebAssembly"

def Trap.message (t : Trap) : String := "wasm trap: " ++ t.reason

end Rerun.Wasm
