import Rerun.Wasm.Operation.Table
import Rerun.Wasm.Text.Types

/-! Instructions as they are written: a keyword and what the operation asks for. -/

namespace Rerun.Wasm.Text.Parse

/-- An index that may be left out and is then zero. -/
def indexOrZero : Parse Index := do
  match ← index? with
  | some i => return i
  | none => return .number 0 (← here)

def callIndirect : Parse (TypeUse × Index) := do
  let before ← index?
  let use ← typeUse false
  match before with
  | some table => return (use, table)
  | none => return (use, ← indexOrZero)

/-- Two indices of which the first may be left out; that one comes first in the
answer. -/
def leadingIndex : Parse (Index × Index) := do
  let offset ← here
  let first ← index
  match ← index? with
  | some second => return (first, second)
  | none => return (.number 0 offset, first)

/-- Both indices or none. -/
def bothIndices : Parse (Index × Index) := do
  match ← index? with
  | some first => return (first, ← index)
  | none =>
      let zero := Index.number 0 (← here)
      return (zero, zero)

/-- The number in a word such as `offset=8`. -/
def assignment (name : String) : Parse (Option Nat) := do
  match ← keyword? with
  | none => return none
  | some word =>
      let opening := (name ++ "=").toList
      if opening.isPrefixOf word.toList then
        match Numeral.ofWord? (word.toList.drop opening.length) with
        | some (.inl n) =>
            match n.unsigned? 64 with
            | some value => skip; return some value
            | none => fail "u64 constant out of range"
        | _ => fail "expected u64 integer constant"
      else return none

def memArg (naturalBytes : Nat) : Parse (MemArg Index) := do
  let memory ← indexOrZero
  let offset := (← assignment "offset").getD 0
  match ← assignment "align" with
  | none => return ⟨Nat.log2 naturalBytes, offset, memory⟩
  | some n =>
      if n.isPowerOfTwo then return ⟨Nat.log2 n, offset, memory⟩
      else fail "alignment must be a power of two"

def lane : Parse Nat := do
  match ← integer? with
  | none => fail "expected a lane index"
  | some n =>
      if n.isSigned then fail "unexpected token"
      else if n.magnitude < 256 then
        skip
        return n.magnitude
      else fail "malformed lane index"

def isAssignment (k : TokenKind) : Bool :=
  match k with
  | .keyword word =>
      "offset=".toList.isPrefixOf word.toList || "align=".toList.isPrefixOf word.toList
  | .integer _ => true
  | _ => false

/-- The access of a lane; a lone number is the lane. -/
def laneAccess (naturalBytes : Nat) : Parse (MemArg Index × Nat) := do
  let alone ← if ← atInteger then pure !(isAssignment (← second)) else pure false
  let arg ←
    if alone then pure ⟨Nat.log2 naturalBytes, 0, .number 0 (← here)⟩
    else memArg naturalBytes
  return (arg, ← lane)

def times (p : Parse α) : Nat → Parse (List α)
  | 0 => return []
  | n + 1 => do
      let a ← p
      return a :: (← times p n)

/-- The number whose lanes of `bits` are given, the lowest first. -/
def joinLanes (bits : Nat) (lanes : List Nat) : Nat :=
  lanes.foldr (fun lane rest => lane + rest * Nat.pow 2 bits) 0

def laneTypes : List String := ["i8x16", "i16x8", "i32x4", "i64x2", "f32x4", "f64x2"]

def vectorConstant : Parse Nat := do
  match ← keyword? with
  | some "i8x16" => skip; return joinLanes 8 (← times (signed "i8" 8) 16)
  | some "i16x8" => skip; return joinLanes 16 (← times (signed "i16" 16) 8)
  | some "i32x4" => skip; return joinLanes 32 (← times (signed "i32" 32) 4)
  | some "i64x2" => skip; return joinLanes 64 (← times (signed "i64" 64) 2)
  | some "f32x4" => skip; return joinLanes 32 (← times (float .single) 4)
  | some "f64x2" => skip; return joinLanes 64 (← times (float .double) 2)
  | _ => unexpected (laneTypes.map quoted)

def constant : NumType → Parse Nat
  | .i32 => signed "i32" 32
  | .i64 => signed "i64" 64
  | .f32 => float .single
  | .f64 => float .double
  | .v128 => vectorConstant

/-- Result types of a `select`, where they are written. -/
def selectTypes : Parse (Option (List (ValType Index))) := do
  let clauses ← whilst (secondIsKeyword "result") (parens do keyword "result"; untilEnd valType)
  return if clauses.isEmpty then none else some clauses.flatten

def catchClause : Parse (Catch Index) := parens do
  match ← keyword? with
  | some "catch" => skip; return ⟨some (← index), false, ← index⟩
  | some "catch_ref" => skip; return ⟨some (← index), true, ← index⟩
  | some "catch_all" => skip; return ⟨none, false, ← index⟩
  | _ => keyword "catch_all_ref"; return ⟨none, true, ← index⟩

def atCatch : Parse Bool := do
  match ← second with
  | .keyword word => return ["catch", "catch_ref", "catch_all", "catch_all_ref"].contains word
  | _ => return false

/-- What the operation asks for. -/
def operands (o : Operation) : Parse TextInstr := do
  let plain (immediate : Immediate Index) : TextInstr := { operation := o, immediate }
  match o.shape with
  | .none =>
      match o.op with
      | .otherwise | .finish => return { operation := o, naming := { id := ← name? } }
      | .select =>
          match ← selectTypes with
          | none => return plain .none
          | some types =>
              return { operation := (o.sibling?).getD o, immediate := .select types }
      | _ => return plain .none
  | .block =>
      let naming ← naming
      return { operation := o, naming, use := some (← typeUse false) }
  | .tryTable =>
      let naming ← naming
      let use ← typeUse false
      let catches ← whilst atCatch catchClause
      return { operation := o, naming, use := some use, immediate := .tryTable .empty catches }
  | .labels =>
      let targets ← do
        let first ← index
        pure (first :: (← whilst atIndex index))
      return plain (.labels targets.dropLast (targets.getLast?.getD (.number 0 0)))
  | .table | .memory => return plain (.index (← indexOrZero))
  | .callIndirect =>
      let (use, table) ← callIndirect
      return { operation := o, use := some use, immediate := .index table }
  | .tableInit =>
      let (table, elem) ← leadingIndex
      return plain (.pair elem table)
  | .memoryInit =>
      let (memory, data) ← leadingIndex
      return plain (.pair data memory)
  | .tableCopy | .memoryCopy =>
      let (target, source) ← bothIndices
      return plain (.pair target source)
  | .field | .typePair | .typeData | .typeElem => return plain (.pair (← index) (← index))
  | .typeCount => return plain (.counted (← index) (← u32))
  | .select => return plain .none
  | .heap => return plain (.heap (← heapType))
  | .refType =>
      let type ← refType
      let o := if type.nullable then (o.sibling?).getD o else o
      return { operation := o, immediate := .heap type.heap }
  | .cast => return plain (.cast (← index) (← refType) (← refType))
  | .access => return plain (.access (← memArg o.op.accessBytes))
  | .accessLane =>
      let (arg, lane) ← laneAccess o.op.accessBytes
      return plain (.accessLane arg lane)
  | .const type => return plain (.bits (← constant type))
  | .lane => return plain (.lanes [← lane])
  | .shuffle => return plain (.lanes (← times u8 16))
  | .label | .func | .local | .global | .type | .tag | .elem | .data =>
      return plain (.index (← index))

def instruction : Parse TextInstr := do
  match ← keyword? with
  | none => fail "expected an instruction"
  | some word =>
      match Operation.ofName? word with
      | none => fail "unknown operator or unexpected token"
      | some o => skip; operands o

end Rerun.Wasm.Text.Parse
