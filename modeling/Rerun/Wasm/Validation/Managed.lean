import Rerun.Wasm.Validation.Stack

/-! Validation of the operations on structures, arrays and casts. -/

namespace Rerun.Wasm.CheckBody

variable (ctx : Context)

def concrete (nullable : Bool) (type : Nat) : ValType Nat := .ref ⟨nullable, .concrete type⟩

def unpacked : StorageType Nat → ValType Nat
  | .val type => type
  | _ => .i32

def isPacked : StorageType Nat → Bool
  | .val _ => false
  | _ => true

def hasDefault : ValType Nat → Bool
  | .ref type => type.nullable
  | _ => true

def compositeAt (index : Nat) : CheckBody (CompositeType Nat) := do
  match ctx.composite? index with
  | some type => return type
  | none => fail "unknown type: type index out of bounds"

def structAt (index : Nat) : CheckBody (List (FieldType Nat)) := do
  match ← compositeAt ctx index with
  | .struct fields => return fields
  | _ => fail s!"expected struct type at index {index}"

def arrayAt (index : Nat) : CheckBody (FieldType Nat) := do
  match ← compositeAt ctx index with
  | .array field => return field
  | _ => fail s!"expected array type at index {index}"

def fieldAt (type field : Nat) : CheckBody (FieldType Nat) := do
  match (← structAt ctx type)[field]? with
  | some f => return f
  | none => fail "unknown field: field index out of bounds"

/-- A read says how to extend exactly where what it reads is packed. -/
def checkExtension (what : String) (f : FieldType Nat) (extend : Option Bool) :
    CheckBody Unit :=
  match extend with
  | none =>
      require (!isPacked f.storage) s!"cannot use {what}.get with packed storage types"
  | some signed =>
      let suffix := if signed then "s" else "u"
      require (isPacked f.storage) s!"cannot use {what}.get_{suffix} with non-packed storage types"

def structNew (type : Nat) : CheckBody Unit := do
  popAll ctx ((← structAt ctx type).map fun f => unpacked f.storage)
  push (concrete false type)

def structNewDefault (type : Nat) : CheckBody Unit := do
  for f in ← structAt ctx type do
    require (hasDefault (unpacked f.storage))
      s!"invalid `struct.new_default`: {(unpacked f.storage).shown} field is not defaultable"
  push (concrete false type)

def structGet (type field : Nat) (extend : Option Bool) : CheckBody Unit := do
  let f ← fieldAt ctx type field
  checkExtension "struct" f extend
  pop ctx (concrete true type)
  push (unpacked f.storage)

def structSet (type field : Nat) : CheckBody Unit := do
  let f ← fieldAt ctx type field
  require f.isMutable "invalid struct.set: struct field is immutable"
  pop ctx (unpacked f.storage)
  pop ctx (concrete true type)

def arrayNew (type : Nat) : CheckBody Unit := do
  let f ← arrayAt ctx type
  pop ctx .i32
  pop ctx (unpacked f.storage)
  push (concrete false type)

def arrayNewDefault (type : Nat) : CheckBody Unit := do
  let f ← arrayAt ctx type
  require (hasDefault (unpacked f.storage))
    s!"invalid `array.new_default`: {(unpacked f.storage).shown} field is not defaultable"
  pop ctx .i32
  push (concrete false type)

def arrayNewFixed (type count : Nat) : CheckBody Unit := do
  let f ← arrayAt ctx type
  popAll ctx (List.replicate count (unpacked f.storage))
  push (concrete false type)

def dataSegment (index : Nat) : CheckBody Unit := do
  match ctx.dataCount with
  | none => fail "data count section required"
  | some count => require (index < count) s!"unknown data segment {index}"

def elemSegment (index : Nat) : CheckBody (RefType Nat) := do
  match ctx.elems[index]? with
  | some type => return type
  | none => fail s!"unknown elem segment {index}: segment index out of bounds"

def numericElement (f : FieldType Nat) (what : String) : CheckBody Unit :=
  require (!(unpacked f.storage).isRef)
    s!"type mismatch: {what} can only create arrays with numeric and vector elements"

def arrayNewData (type data : Nat) : CheckBody Unit := do
  numericElement (← arrayAt ctx type) "array.new_data"
  dataSegment ctx data
  popAll ctx [.i32, .i32]
  push (concrete false type)

def elemFits (type elem : Nat) : CheckBody Unit := do
  let f ← arrayAt ctx type
  let source ← elemSegment ctx elem
  require (ctx.within (.ref source) (unpacked f.storage)) "type mismatch: invalid element type"

def arrayNewElem (type elem : Nat) : CheckBody Unit := do
  elemFits ctx type elem
  popAll ctx [.i32, .i32]
  push (concrete false type)

def arrayGet (type : Nat) (extend : Option Bool) : CheckBody Unit := do
  let f ← arrayAt ctx type
  checkExtension "array" f extend
  popAll ctx [concrete true type, .i32]
  push (unpacked f.storage)

def mutableArray (type : Nat) (what : String) : CheckBody (FieldType Nat) := do
  let f ← arrayAt ctx type
  require f.isMutable s!"invalid {what}: array is immutable"
  return f

def arraySet (type : Nat) : CheckBody Unit := do
  let f ← mutableArray ctx type "array.set"
  popAll ctx [concrete true type, .i32, unpacked f.storage]

def arrayFill (type : Nat) : CheckBody Unit := do
  let f ← mutableArray ctx type "array.fill"
  popAll ctx [concrete true type, .i32, unpacked f.storage, .i32]

def arrayCopy (target source : Nat) : CheckBody Unit := do
  let held ← mutableArray ctx target "array.copy"
  let given ← arrayAt ctx source
  require (ctx.storageWithin given.storage held.storage) "array types do not match"
  popAll ctx [concrete true target, .i32, concrete true source, .i32, .i32]

def arrayInitData (type data : Nat) : CheckBody Unit := do
  numericElement (← mutableArray ctx type "array.init_data") "array.init_data"
  dataSegment ctx data
  popAll ctx [concrete true type, .i32, .i32, .i32]

def arrayInitElem (type elem : Nat) : CheckBody Unit := do
  let _ ← mutableArray ctx type "array.init_elem"
  elemFits ctx type elem
  popAll ctx [concrete true type, .i32, .i32, .i32]

/-- The type of all references of the hierarchy. -/
def topOf (h : HeapType Nat) : HeapType Nat :=
  let heap : AbstractHeap :=
    match h with
    | .abstract heap => heap
    | .concrete index => ctx.heapOf index
  match heap.bottom with
  | .noFunc => .abstract .func
  | .noForeign => .abstract .foreign
  | .noExn => .abstract .exn
  | .noCont => .abstract .cont
  | _ => .abstract .any

def castTo (nullable : Bool) (heap : HeapType Nat) : CheckBody (ValType Nat) := do
  Check.refType ctx (← get).offset ⟨nullable, heap⟩
  pop ctx (.ref ⟨true, topOf ctx heap⟩)
  return .ref ⟨nullable, heap⟩

/-- A source without what passes as the target. -/
def difference (source target : RefType Nat) : RefType Nat :=
  ⟨source.nullable && !target.nullable, source.heap⟩

def brOnCast (onFailure : Bool) (label : Nat) (source target : RefType Nat) : CheckBody Unit := do
  Check.refType ctx (← get).offset source
  Check.refType ctx (← get).offset target
  require (ctx.refWithin target source)
    s!"type mismatch: expected {source.shown}, found {target.shown}"
  let rest := difference source target
  let (taken, kept) := if onFailure then (rest, target) else (target, rest)
  let f ← CheckBody.target label
  let types := labelTypes ctx f
  match types.getLast? with
  | none => fail "type mismatch: branch on cast to label with empty types, must have a reference type"
  | some last =>
      require (ctx.within (.ref taken) last)
        s!"type mismatch: casting to type {taken.shown} does not match label result type {last.shown}"
      pop ctx (.ref source)
      retype ctx types.dropLast
      push (.ref kept)

end Rerun.Wasm.CheckBody
