import Rerun.Wasm.Operation

/-! Instructions: an operation and what follows it.  A body is a flat sequence in
which `end` closes what a block operation opened. -/

namespace Rerun.Wasm

inductive BlockType (ι : Type)
  | empty
  | result (type : ValType ι)
  | func (type : ι)
deriving DecidableEq, Repr

/-- Alignment, offset and memory of an access. -/
structure MemArg (ι : Type) where
  alignLog2 : Nat
  offset : Nat
  memory : ι
deriving DecidableEq, Repr

/-- A clause of a `try_table`; it catches everything where it has no tag. -/
structure Catch (ι : Type) where
  tag : Option ι
  withReference : Bool
  label : ι
deriving DecidableEq, Repr

inductive Immediate (ι : Type)
  | none
  | block (type : BlockType ι)
  | tryTable (type : BlockType ι) (catches : List (Catch ι))
  | index (i : ι)
  /-- In the order of the binary format. -/
  | pair (i j : ι)
  | counted (i : ι) (n : Nat)
  | labels (targets : List ι) (default : ι)
  | select (types : List (ValType ι))
  | heap (type : HeapType ι)
  | ref (type : RefType ι)
  | cast (label : ι) (source target : RefType ι)
  | access (arg : MemArg ι)
  | accessLane (arg : MemArg ι) (lane : Nat)
  /-- A constant by its bits. -/
  | bits (n : Nat)
  | lanes (ns : List Nat)
deriving DecidableEq, Repr

structure Instr (ι : Type) where
  operation : Operation
  immediate : Immediate ι
deriving DecidableEq, Repr

namespace Instr

def op {ι : Type} (i : Instr ι) : Op := i.operation.op

end Instr

end Rerun.Wasm
