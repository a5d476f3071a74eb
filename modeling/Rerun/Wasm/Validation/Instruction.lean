import Rerun.Wasm.Validation.Managed

/-! Validation of single instructions. -/

namespace Rerun.Wasm.CheckBody

variable (ctx : Context)

def indexType (is64 : Bool) : ValType Nat := if is64 then .i64 else .i32

def memoryAt (index : Nat) : CheckBody (ValType Nat) := do
  match ctx.memories[index]? with
  | some type => return indexType type.is64
  | none => fail s!"unknown memory {index}"

def tableAt (index : Nat) : CheckBody (TableType Nat) := do
  match ctx.tables[index]? with
  | some type => return type
  | none => fail s!"unknown table {index}: table index out of bounds"

def globalAt (index : Nat) : CheckBody (GlobalType Nat) := do
  match ctx.globals[index]? with
  | some type => return type
  | none => fail "unknown global: global index out of bounds"

def localAt (index : Nat) : CheckBody (ValType Nat) := do
  match (← get).locals[index]? with
  | some type => return type
  | none => fail s!"unknown local {index}: local index out of bounds"

def setLocal (index : Nat) (type : ValType Nat) : CheckBody Unit :=
  if hasDefault type then return ()
  else modify fun s => { s with setLocals := index :: s.setLocals }

def maxAlignLog2 (op : Op) : Nat := Nat.log2 op.accessBytes

/-- The type of the address of an access. -/
def access (op : Op) (arg : MemArg Nat) : CheckBody (ValType Nat) := do
  let type ← memoryAt ctx arg.memory
  require (arg.alignLog2 ≤ maxAlignLog2 op)
    "malformed memop alignment: alignment must not be larger than natural"
  if type == .i32 then
    require (arg.offset < Nat.pow 2 32) "offset out of range: must be <= 2**32"
  return type

def atomicAccess (op : Op) (arg : MemArg Nat) : CheckBody (ValType Nat) := do
  require (arg.alignLog2 == maxAlignLog2 op)
    "atomic instructions must always specify maximum alignment"
  memoryAt ctx arg.memory

def callType (type : FuncType Nat) : CheckBody Unit := do
  popAll ctx type.params
  pushAll type.results

def shownTypes (types : List (ValType Nat)) : String := " ".intercalate (types.map (·.shown))

def tailCallType (type : FuncType Nat) : CheckBody Unit := do
  let expected := results ctx (← outermost).type
  require (ctx.allWithin type.results expected)
    s!"type mismatch: current function requires result type [{shownTypes expected}] but callee returns [{shownTypes type.results}]"
  popAll ctx type.params
  pushAll type.results
  giveBack ctx

def calleeType (function : Nat) : CheckBody (FuncType Nat) := do
  match ctx.signature? function with
  | some type => return type
  | none => fail s!"unknown function {function}: function index out of bounds"

def indirectType (type table : Nat) : CheckBody (FuncType Nat) := do
  let t ← tableAt ctx table
  require (ctx.refWithin t.element .func)
    "indirect calls must go through a table with type <= funcref"
  pop ctx (indexType t.limits.is64)
  funcTypeAt ctx type

def calledReference (type : Nat) : CheckBody (FuncType Nat) := do
  let called ← funcTypeAt ctx type
  pop ctx (concrete true type)
  return called

def brTable (targets : List Nat) (default : Nat) : CheckBody Unit := do
  pop ctx .i32
  let defaultTypes := labelTypes ctx (← target default)
  for depth in targets do
    let types := labelTypes ctx (← target depth)
    require (types.length == defaultTypes.length)
      "type mismatch: br_table target labels have different number of types"
    keep ctx types
  popAll ctx defaultTypes
  unreachable

/-- The type of a `select` whose type is not written. -/
def selected : Operand → Operand → Option Operand
  | .anything, o => some o
  | o, .anything => some o
  | o, p => if o = p then some o else none

def isReference : Operand → Bool
  | .known type => type.isRef
  | .anyReference => true
  | .anything => false

def select : CheckBody Unit := do
  pop ctx .i32
  let first ← popAny
  let second ← popAny
  require (!isReference first && !isReference second)
    "type mismatch: select only takes integral types"
  match selected first second with
  | some o => pushOperand o
  | none => fail "type mismatch: select operands have different types"

/-- One instruction of `if` shape without an `else` has an empty one. -/
def finish : CheckBody Unit := do
  let f ← leave ctx
  let f ← if f.kind = .cond then do
      enter ctx .otherwise f.type
      leave ctx
    else pure f
  pushAll (results ctx f.type)
  modify fun s =>
    if s.frames.isEmpty && s.closedAt.isNone then { s with closedAt := some s.offset } else s

def otherwise : CheckBody Unit := do
  let f ← leave ctx
  require (f.kind = .cond) "else found outside of an `if` block"
  enter ctx .otherwise f.type

def nonNull (type : Option (RefType Nat)) : Operand :=
  match type with
  | none => .anyReference
  | some type => .known (.ref { type with nullable := false })

def brOnNull (depth : Nat) : CheckBody Unit := do
  let type ← popRef
  retype ctx (labelTypes ctx (← target depth))
  pushOperand (nonNull type)

def brOnNonNull (depth : Nat) : CheckBody Unit := do
  let types := labelTypes ctx (← target depth)
  match types.getLast? with
  | none => fail "type mismatch: br_on_non_null target has no label types"
  | some (.ref type) =>
      pop ctx (.ref { type with nullable := true })
      retype ctx types.dropLast
  | some _ => fail "type mismatch: br_on_non_null target does not end with heap type"

def tagParams (tag : Nat) : CheckBody (List (ValType Nat)) := do
  match (ctx.tags[tag]?).bind ctx.funcType? with
  | some type => return type.params
  | none => fail s!"unknown tag {tag}: tag index out of bounds"

/-- What a clause gives its label is what the label takes. -/
def checkCatch (c : Catch Nat) : CheckBody Unit := do
  let given ← match c.tag with
    | some tag => tagParams ctx tag
    | none => pure []
  let given := if c.withReference then given ++ [.ref ⟨false, .abstract .exn⟩] else given
  let taken := labelTypes ctx (← target c.label)
  require (given.length == taken.length)
    "type mismatch: catch label must have same number of types as tag"
  pushAll given
  popAll ctx taken

def tryTable (type : BlockType Nat) (catches : List (Catch Nat)) : CheckBody Unit := do
  checkBlockType ctx type
  popAll ctx (params ctx type)
  for c in catches do checkCatch ctx c
  enter ctx .block type

/-- Operations on tables. -/
def tableOp (op : Op) (i : Nat) : CheckBody Unit := do
  let t ← tableAt ctx i
  let index := indexType t.limits.is64
  let element : ValType Nat := .ref t.element
  match op with
  | .tableGet => pop ctx index; push element
  | .tableSet => popAll ctx [index, element]
  | .tableGrow => popAll ctx [element, index]; push index
  | .tableSize => push index
  | _ => popAll ctx [index, element, index]

/-- The narrower of two index types. -/
def narrower (a b : ValType Nat) : ValType Nat := if a == .i64 then b else a

def pairOp (op : Op) (i j : Nat) : CheckBody Unit := do
  match op with
  | .callIndirect => callType ctx (← indirectType ctx i j)
  | .tailCallIndirect => tailCallType ctx (← indirectType ctx i j)
  | .tableInit =>
      let t ← tableAt ctx j
      let source ← elemSegment ctx i
      require (ctx.refWithin source t.element) "type mismatch"
      popAll ctx [indexType t.limits.is64, .i32, .i32]
  | .tableCopy =>
      let target ← tableAt ctx i
      let source ← tableAt ctx j
      require (ctx.refWithin source.element target.element) "type mismatch"
      let first := indexType target.limits.is64
      let second := indexType source.limits.is64
      popAll ctx [first, second, narrower first second]
  | .memoryInit =>
      let type ← memoryAt ctx j
      dataSegment ctx i
      popAll ctx [type, .i32, .i32]
  | .memoryCopy =>
      let first ← memoryAt ctx i
      let second ← memoryAt ctx j
      popAll ctx [first, second, narrower first second]
  | .structGet extend => structGet ctx i j extend
  | .structSet => structSet ctx i j
  | .arrayCopy => arrayCopy ctx i j
  | .arrayNewData => arrayNewData ctx i j
  | .arrayInitData => arrayInitData ctx i j
  | .arrayNewElem => arrayNewElem ctx i j
  | .arrayInitElem => arrayInitElem ctx i j
  | _ => return ()

def refFunc (function : Nat) : CheckBody Unit := do
  match ctx.functions[function]? with
  | none => fail s!"unknown function {function}: function index out of bounds"
  | some type =>
      require (ctx.declared.contains function) "undeclared function reference"
      push (concrete false type)

def indexOp (op : Op) (i : Nat) : CheckBody Unit := do
  match op with
  | .br =>
      popAll ctx (labelTypes ctx (← target i))
      unreachable
  | .brIf =>
      pop ctx .i32
      retype ctx (labelTypes ctx (← target i))
  | .brOnNull => brOnNull ctx i
  | .brOnNonNull => brOnNonNull ctx i
  | .call => callType ctx (← calleeType ctx i)
  | .tailCall => tailCallType ctx (← calleeType ctx i)
  | .callRef => callType ctx (← calledReference ctx i)
  | .tailCallRef => tailCallType ctx (← calledReference ctx i)
  | .throw =>
      popAll ctx (← tagParams ctx i)
      unreachable
  | .refFunc => refFunc ctx i
  | .localGet =>
      let type ← localAt i
      require (hasDefault type || (← get).setLocals.contains i) s!"uninitialized local: {i}"
      push type
  | .localSet =>
      let type ← localAt i
      pop ctx type
      setLocal i type
  | .localTee =>
      let type ← localAt i
      pop ctx type
      setLocal i type
      push type
  | .globalGet => push (← globalAt ctx i).type
  | .globalSet =>
      let type ← globalAt ctx i
      require type.isMutable "global is immutable: cannot modify it with `global.set`"
      pop ctx type.type
  | .elemDrop =>
      let _ ← elemSegment ctx i
  | .dataDrop => dataSegment ctx i
  | .memorySize => push (← memoryAt ctx i)
  | .memoryGrow =>
      let type ← memoryAt ctx i
      pop ctx type
      push type
  | .memoryFill =>
      let type ← memoryAt ctx i
      popAll ctx [type, .i32, type]
  | .structNew => structNew ctx i
  | .structNewDefault => structNewDefault ctx i
  | .arrayNew => arrayNew ctx i
  | .arrayNewDefault => arrayNewDefault ctx i
  | .arrayGet extend => arrayGet ctx i extend
  | .arraySet => arraySet ctx i
  | .arrayFill => arrayFill ctx i
  | .legacyCatch | .rethrow | .delegate => return ()
  | op => tableOp ctx op i

def accessOp (op : Op) (arg : MemArg Nat) : CheckBody Unit := do
  match op with
  | .load f =>
      let address ← access ctx op arg
      pop ctx address
      push f.type.toVal
  | .store type _ =>
      let address ← access ctx op arg
      popAll ctx [address, type.toVal]
  | .loadLane _ =>
      let address ← access ctx op arg
      popAll ctx [address, .v128]
      push .v128
  | .storeLane _ =>
      let address ← access ctx op arg
      popAll ctx [address, .v128]
  | .atomic f =>
      let address ← atomicAccess ctx op arg
      let (operands, result) := f.signature
      popAll ctx (address :: operands.map NumType.toVal)
      (result.map NumType.toVal).forM push
  | _ => return ()

def convert (source target : AbstractHeap) : CheckBody Unit := do
  match ← popAs ctx (.ref (.ofHeap source)) with
  | .known (.ref type) => push (.ref { type with heap := .abstract target })
  | _ => push (.ref ⟨false, .abstract target⟩)

/-- Operations with nothing after them. -/
def plainOp (op : Op) : CheckBody Unit := do
  match op with
  | .unreachable => unreachable
  | .otherwise => otherwise ctx
  | .finish => finish ctx
  | .ret => giveBack ctx
  | .throwRef => pop ctx (.ref (.ofHeap .exn)); unreachable
  | .drop =>
      let _ ← popAny
  | .select => select ctx
  | .numeric f =>
      let (operands, result) := f.signature
      popAll ctx (operands.map NumType.toVal)
      push result.toVal
  | .vector f =>
      let (operands, result) := f.signature
      popAll ctx (operands.map NumType.toVal)
      push result.toVal
  | .wideArithmetic operands =>
      popAll ctx (List.replicate operands .i64)
      pushAll [.i64, .i64]
  | .refIsNull =>
      let _ ← popRef
      push .i32
  | .refAsNonNull => pushOperand (nonNull (← popRef))
  | .refEq =>
      popAll ctx [.ref (.ofHeap .eq), .ref (.ofHeap .eq)]
      push .i32
  | .arrayLen =>
      pop ctx (.ref (.ofHeap .array))
      push .i32
  | .internalize => convert ctx .foreign .any
  | .externalize => convert ctx .any .foreign
  | .refI31 =>
      pop ctx .i32
      push (.ref ⟨false, .abstract .i31⟩)
  | .i31Get _ =>
      pop ctx (.ref (.ofHeap .i31))
      push .i32
  | _ => return ()

def laneOp (op : Op) : CheckBody Unit := do
  match op with
  | .extractLane _ type _ => pop ctx .v128; push type.toVal
  | .replaceLane _ type => popAll ctx [.v128, type.toVal]; push .v128
  | _ => popAll ctx [.v128, .v128]; push .v128

def heapOp (op : Op) (heap : HeapType Nat) : CheckBody Unit := do
  match op with
  | .refNull =>
      Check.refType ctx (← get).offset ⟨true, heap⟩
      push (.ref ⟨true, heap⟩)
  | .refTest nullable =>
      let _ ← castTo ctx nullable heap
      push .i32
  | .refCast nullable => push (← castTo ctx nullable heap)
  | _ => return ()

/-- The feature that an operation belongs to. -/
def featureOf : Op → Option Feature
  | .refAsNonNull | .brOnNull | .brOnNonNull | .callRef | .tailCallRef =>
      some .functionReferences
  | .throw | .throwRef | .tryTable => some .exceptions
  | .legacyTry | .legacyCatch | .legacyCatchAll | .rethrow | .delegate =>
      some .legacyExceptions
  | .wideArithmetic _ => some .wideArithmetic
  | .refEq | .structNew | .structNewDefault | .structGet _ | .structSet | .arrayNew
  | .arrayNewDefault | .arrayNewFixed | .arrayNewData | .arrayNewElem | .arrayGet _ | .arraySet
  | .arrayLen | .arrayFill | .arrayCopy | .arrayInitData | .arrayInitElem | .refTest _
  | .refCast _ | .brOnCast _ | .internalize | .externalize | .refI31 | .i31Get _ => some .gc
  | _ => none

def blockOp (op : Op) (type : BlockType Nat) : CheckBody Unit := do
  checkBlockType ctx type
  if op = .cond then pop ctx .i32
  popAll ctx (params ctx type)
  let kind : FrameKind :=
    match op with
    | .loop => .loop
    | .cond => .cond
    | _ => .block
  enter ctx kind type

/-- What the instruction does to the stack and the blocks. -/
def instr (i : Instr Nat) : CheckBody Unit := do
  let op := i.op
  (featureOf op).forM needs
  match i.immediate with
  | .none => plainOp ctx op
  | .block type => blockOp ctx op type
  | .tryTable type catches => tryTable ctx type catches
  | .index i => indexOp ctx op i
  | .pair i j => pairOp ctx op i j
  | .counted type n => arrayNewFixed ctx type n
  | .labels targets default => brTable ctx targets default
  | .select types =>
      for t in types do Check.valType ctx (← get).offset t
      pop ctx .i32
      popAll ctx (types ++ types)
      pushAll types
  | .heap heap => heapOp ctx op heap
  | .ref _ => return ()
  | .cast label source target => brOnCast ctx (op = .brOnCast true) label source target
  | .access arg | .accessLane arg _ => accessOp ctx op arg
  | .bits _ =>
      match op with
      | .const type => push type.toVal
      | _ => return ()
  | .lanes _ => laneOp ctx op

end Rerun.Wasm.CheckBody
