import Rerun.Wasm.Binary.Reader
import Rerun.Wasm.Module
import Rerun.Wasm.Operation.Table

/-! Reading types and instructions.  Indices are taken as they are; whether there is
something at them is asked later. -/

namespace Rerun.Wasm.Read

/-- Bits of the first byte that tell a negative number of one byte. -/
def isNegativeByte (b : UInt8) : Bool := b &&& 0xc0 == 0x40

def typeIndex (what : String) : Read Nat := do
  let n ← s33
  if n < 0 then fail what else return n.toNat

def heapType : Read (HeapType Nat) := do
  let b ← peek
  if isNegativeByte b then
    let _ ← u8
    match AbstractHeap.ofCode? b with
    | some heap => return .abstract heap
    | none => failBefore "invalid abstract heap type"
  else return .concrete (← typeIndex "invalid indexed ref heap type")

def refType : Read (RefType Nat) := do
  let start ← position
  let b ← u8
  if b = 0x63 then return ⟨true, ← heapType⟩
  else if b = 0x64 then return ⟨false, ← heapType⟩
  else
    match AbstractHeap.ofCode? b with
    | some heap => return .ofHeap heap
    | none => failAt start "malformed reference type"

/-- The types of one byte that are no references. -/
def plainType? (b : UInt8) : Option (ValType Nat) :=
  [ ((0x7f : UInt8), ValType.i32), (0x7e, .i64), (0x7d, .f32), (0x7c, .f64),
    (0x7b, .v128) ].lookup b

def isTypeByte (b : UInt8) : Bool :=
  (plainType? b).isSome || b == 0x63 || b == 0x64 || (AbstractHeap.ofCode? b).isSome

def valType : Read (ValType Nat) := do
  let b ← peek
  match plainType? b with
  | some type =>
      let _ ← u8
      return type
  | none => if isTypeByte b then return .ref (← refType) else fail "invalid value type"

def storageType : Read (StorageType Nat) := do
  match ← peek with
  | 0x78 => let _ ← u8; return .i8
  | 0x77 => let _ ← u8; return .i16
  | _ => return .val (← valType)

def mutability : Read Bool := do
  match ← u8 with
  | 0 => return false
  | 1 => return true
  | _ => failBefore "malformed mutability"

def fieldType : Read (FieldType Nat) := do
  let storage ← storageType
  return ⟨← mutability, storage⟩

def funcType : Read (FuncType Nat) := do
  let params ← times valType (← size 1000 "function params")
  let results ← times valType (← size 1000 "function returns")
  return ⟨params, results⟩

def compositeType (code : UInt8) : Read (CompositeType Nat) := do
  match code with
  | 0x60 => return .func (← funcType)
  | 0x5f => return .struct (← times fieldType (← size 10000 "struct fields"))
  | 0x5e => return .array (← fieldType)
  | code => invalidLeadingByte code "type"

def subType : Read (SubType Nat) := do
  let code ← u8
  if code = 0x4f || code = 0x50 then
    let parents ← times u32 (← size 1 "supertype idxs")
    return ⟨code = 0x4f, parents.head?, ← compositeType (← u8)⟩
  else return ⟨true, none, ← compositeType code⟩

def recGroup : Read RecGroup := do
  if (← peek) = 0x4e then
    let _ ← u8
    return ⟨true, ← times subType (← size 1000000 "rec group types")⟩
  else return ⟨false, [← subType]⟩

def flagSet (flags : UInt8) (bit : Nat) : Bool := flags.toNat / Nat.pow 2 bit % 2 == 1

def bound (is64 : Bool) : Read Nat := if is64 then u64 else u32

def limits (what : String) (known : UInt8) : Read Limits := do
  let flags ← u8
  if flags &&& known != flags then failBefore s!"invalid {what} limits flags"
  let is64 := flagSet flags 2
  let minimum ← bound is64
  let maximum ← if flagSet flags 0 then some <$> bound is64 else pure none
  let pageSizeLog2 ← if flagSet flags 3 then some <$> u32 else pure none
  return { is64, minimum, maximum, isShared := flagSet flags 1, pageSizeLog2 }

def memoryType : Read Limits := limits "memory" 0x0f

def tableType : Read (TableType Nat) := do
  let element ← refType
  return ⟨← limits "table resizable" 0x07, element⟩

def globalType : Read (GlobalType Nat) := do
  let type ← valType
  let flags ← u8
  if 3 < flags then failBefore "malformed mutability"
  return ⟨type, flagSet flags 0, flagSet flags 1⟩

def blockType : Read (BlockType Nat) := do
  let b ← peek
  if b = 0x40 then
    let _ ← u8
    return .empty
  else if isTypeByte b then return .result (← valType)
  else return .func (← typeIndex "invalid function type")

/-- An offset that only a memory of 64 bits can need. -/
def accessOffset : Read Nat := do
  let before ← get
  tryCatch u32 fun fault => do
    set { before with demands := ⟨.memory64, fault⟩ :: before.demands }
    u64

def memArg : Read (MemArg Nat) := do
  let start ← position
  let flags ← u32
  let (flags, memory) ←
    if flags / 64 % 2 == 1 then pure (flags - 64, ← u32) else pure (flags, 0)
  require (flags < 64) start "malformed memop alignment: alignment too large"
  return ⟨flags, ← accessOffset, memory⟩

def laneBelow (limit : Nat) : Read Nat := do
  let n := (← u8).toNat
  if limit ≤ n then failBefore "invalid lane index" else return n

def constant : NumType → Read Nat
  | .i32 => return ((← signed "var_i32" 32) % Nat.pow 2 32).toNat
  | .i64 => return ((← signed "var_i64" 64) % Nat.pow 2 64).toNat
  | type => fixed (type.bits / 8)

def catchClause : Read (Catch Nat) := do
  match ← u8 with
  | 0 => return ⟨some (← u32), false, ← u32⟩
  | 1 => return ⟨some (← u32), true, ← u32⟩
  | 2 => return ⟨none, false, ← u32⟩
  | 3 => return ⟨none, true, ← u32⟩
  | b => invalidLeadingByte b "catch"

def cast : Read (Immediate Nat) := do
  let flags ← u8
  if 3 < flags then failBefore "invalid cast flags"
  let label ← u32
  let source ← heapType
  return .cast label ⟨flagSet flags 0, source⟩ ⟨flagSet flags 1, ← heapType⟩

def lanesOf : Op → Nat
  | .extractLane bits _ _ | .replaceLane bits _ | .loadLane bits | .storeLane bits => 128 / bits
  | _ => 16

def immediate (op : Op) : Read (Immediate Nat) := do
  match op.shape with
  | .none =>
      if op = .fence then
        if (← u8) != 0 then failBefore "nonzero byte after `atomic.fence`"
      return .none
  | .block => return .block (← blockType)
  | .tryTable =>
      let type ← blockType
      return .tryTable type (← times catchClause (← size 10000 "catches"))
  | .labels =>
      let targets ← times u32 (← size 131072 "br_table")
      return .labels targets (← u32)
  | .callIndirect | .tableInit | .tableCopy | .memoryInit | .memoryCopy | .field | .typePair
  | .typeData | .typeElem => return .pair (← u32) (← u32)
  | .typeCount => return .counted (← u32) (← u32)
  | .select =>
      if (← u32) != 1 then fail "invalid result arity"
      return .select [← valType]
  | .heap | .refType => return .heap (← heapType)
  | .cast => cast
  | .access => return .access (← memArg)
  | .accessLane => return .accessLane (← memArg) (← laneBelow (lanesOf op))
  | .const type => return .bits (← constant type)
  | .lane => return .lanes [← laneBelow (lanesOf op)]
  | .shuffle => return .lanes (← times (laneBelow 32) 16)
  | .label | .func | .local | .global | .type | .tag | .elem | .data | .table | .memory =>
      return .index (← u32)

/-- Bytes that come before the code of an operation. -/
def leads : List UInt8 := [0xfb, 0xfc, 0xfd, 0xfe]

def operation : Read Operation := do
  let start ← position
  let b ← u8
  if leads.contains b then
    let code ← u32
    match Operation.ofCode? (some b) code with
    | some o => return o
    | none =>
        failAt start s!"unknown 0x{Digits.hex b.toNat} subopcode: 0x{Digits.hex code}"
  else
    match Operation.ofCode? none b.toNat with
    | some o => return o
    | none => failAt start s!"illegal opcode: 0x{Digits.hex b.toNat}"

def instr : Read (Instr Nat) := do
  let o ← operation
  return ⟨o, ← immediate o.op⟩

/-- An instruction with the byte it begins at. -/
structure Located where
  offset : Nat
  instr : Instr Nat

def located : Read Located := do
  let offset ← position
  return ⟨offset, ← instr⟩

def constantFrom : Nat → List Located → Read (List Located)
  | 0, found => return found.reverse
  | fuel + 1, found => do
      let i ← located
      if i.instr.op = .finish then return (i :: found).reverse
      else constantFrom fuel (i :: found)

/-- The instructions of a constant, up to the first `end`. -/
def constantCode : Read (List Located) := do constantFrom ((← remaining) + 1) []

end Rerun.Wasm.Read
