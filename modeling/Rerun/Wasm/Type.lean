/-! Types of WebAssembly.  A type may refer to a type definition; how it does is
left open, since a text may use names where a binary has numbers. -/

namespace Rerun.Wasm

inductive AbstractHeap
  | func | noFunc | foreign | noForeign | any | none | eq | i31 | struct | array
  | exn | noExn | cont | noCont
deriving DecidableEq, Repr

inductive HeapType (ι : Type)
  | abstract (heap : AbstractHeap)
  | concrete (index : ι)
deriving DecidableEq, Repr

structure RefType (ι : Type) where
  nullable : Bool
  heap : HeapType ι
deriving DecidableEq, Repr

inductive ValType (ι : Type)
  | i32 | i64 | f32 | f64 | v128
  | ref (type : RefType ι)
deriving DecidableEq, Repr

structure FuncType (ι : Type) where
  params : List (ValType ι)
  results : List (ValType ι)
deriving DecidableEq, Repr

/-- What a field of a structure or an array holds. -/
inductive StorageType (ι : Type)
  | i8 | i16
  | val (type : ValType ι)
deriving DecidableEq, Repr

structure FieldType (ι : Type) where
  isMutable : Bool
  storage : StorageType ι
deriving DecidableEq, Repr

inductive CompositeType (ι : Type)
  | func (type : FuncType ι)
  | struct (fields : List (FieldType ι))
  | array (field : FieldType ι)
deriving DecidableEq, Repr

/-- A type definition and the definition it refines. -/
structure SubType (ι : Type) where
  isFinal : Bool
  parent : Option ι
  composite : CompositeType ι
deriving DecidableEq, Repr

structure Limits where
  is64 : Bool := false
  minimum : Nat
  maximum : Option Nat
  isShared : Bool := false
  /-- Binary logarithm of the page size, where it is stated. -/
  pageSizeLog2 : Option Nat := none
deriving DecidableEq, Repr

structure TableType (ι : Type) where
  limits : Limits
  element : RefType ι
deriving DecidableEq, Repr

structure GlobalType (ι : Type) where
  type : ValType ι
  isMutable : Bool
  isShared : Bool := false
deriving DecidableEq, Repr

variable {ι κ : Type} {m : Type → Type} [Monad m]

def HeapType.mapM (f : ι → m κ) : HeapType ι → m (HeapType κ)
  | .abstract heap => pure (.abstract heap)
  | .concrete index => return .concrete (← f index)

def RefType.mapM (f : ι → m κ) (r : RefType ι) : m (RefType κ) :=
  return ⟨r.nullable, ← r.heap.mapM f⟩

def ValType.mapM (f : ι → m κ) : ValType ι → m (ValType κ)
  | .i32 => pure .i32
  | .i64 => pure .i64
  | .f32 => pure .f32
  | .f64 => pure .f64
  | .v128 => pure .v128
  | .ref type => return .ref (← type.mapM f)

def FuncType.mapM (f : ι → m κ) (t : FuncType ι) : m (FuncType κ) :=
  return ⟨← t.params.mapM (·.mapM f), ← t.results.mapM (·.mapM f)⟩

def StorageType.mapM (f : ι → m κ) : StorageType ι → m (StorageType κ)
  | .i8 => pure .i8
  | .i16 => pure .i16
  | .val type => return .val (← type.mapM f)

def FieldType.mapM (f : ι → m κ) (t : FieldType ι) : m (FieldType κ) :=
  return ⟨t.isMutable, ← t.storage.mapM f⟩

def CompositeType.mapM (f : ι → m κ) : CompositeType ι → m (CompositeType κ)
  | .func type => return .func (← type.mapM f)
  | .struct fields => return .struct (← fields.mapM (·.mapM f))
  | .array field => return .array (← field.mapM f)

def SubType.mapM (f : ι → m κ) (t : SubType ι) : m (SubType κ) := do
  let parent ← match t.parent with
    | none => pure none
    | some index => some <$> f index
  return ⟨t.isFinal, parent, ← t.composite.mapM f⟩

namespace AbstractHeap

/-- Name, name of the nullable reference type, and code of each abstract heap type. -/
def names : List (AbstractHeap × String × String × UInt8) :=
  [ (.func, "func", "funcref", 0x70), (.foreign, "extern", "externref", 0x6f),
    (.exn, "exn", "exnref", 0x69), (.any, "any", "anyref", 0x6e), (.eq, "eq", "eqref", 0x6d),
    (.struct, "struct", "structref", 0x6b), (.array, "array", "arrayref", 0x6a),
    (.i31, "i31", "i31ref", 0x6c), (.cont, "cont", "contref", 0x68),
    (.noFunc, "nofunc", "nullfuncref", 0x73), (.noForeign, "noextern", "nullexternref", 0x72),
    (.noExn, "noexn", "nullexnref", 0x74), (.none, "none", "nullref", 0x71),
    (.noCont, "nocont", "nullcontref", 0x75) ]

def entry (h : AbstractHeap) : String × String × UInt8 :=
  ((names.find? (·.1 == h)).map (·.2)).getD ("", "", 0)

def name (h : AbstractHeap) : String := h.entry.1

def code (h : AbstractHeap) : UInt8 := h.entry.2.2

def ofName? (name : String) : Option AbstractHeap :=
  (names.find? (·.2.1 == name)).map (·.1)

/-- By the short name of its nullable reference type. -/
def ofReferenceName? (name : String) : Option AbstractHeap :=
  (names.find? (·.2.2.1 == name)).map (·.1)

def ofCode? (code : UInt8) : Option AbstractHeap :=
  (names.find? (·.2.2.2 == code)).map (·.1)

/-- The heap type at the bottom of the same hierarchy. -/
def bottom : AbstractHeap → AbstractHeap
  | func | noFunc => noFunc
  | foreign | noForeign => noForeign
  | exn | noExn => noExn
  | cont | noCont => noCont
  | _ => none

/-- Whether every reference to `a` is one to `b`. -/
def within (a b : AbstractHeap) : Bool :=
  a == b || a == b.bottom ||
    match a, b with
    | eq, any | i31, any | struct, any | array, any => true
    | i31, eq | struct, eq | array, eq => true
    | _, _ => false

end AbstractHeap

namespace RefType

def ofHeap (heap : AbstractHeap) : RefType ι := ⟨true, .abstract heap⟩

def func : RefType ι := ofHeap .func

/-- How a message names the type. -/
def shown (r : RefType ι) : String :=
  match r.nullable, r.heap with
  | true, .abstract heap => heap.entry.2.1
  | false, .abstract heap => s!"(ref {heap.name})"
  | true, .concrete _ => "(ref null $type)"
  | false, .concrete _ => "(ref $type)"

end RefType

namespace ValType

def shown : ValType ι → String
  | i32 => "i32"
  | i64 => "i64"
  | f32 => "f32"
  | f64 => "f64"
  | v128 => "v128"
  | ref type => type.shown

def isRef : ValType ι → Bool
  | ref _ => true
  | _ => false

end ValType

end Rerun.Wasm
