import Rerun.Wasm.Type

/-! Operations of WebAssembly: what each one is, what follows it, and how it is
written in text and in binary. -/

namespace Rerun.Wasm

/-- Types of values that are plain bits. -/
inductive NumType
  | i32 | i64 | f32 | f64 | v128
deriving DecidableEq, Repr

namespace NumType

def toVal {ι : Type} : NumType → ValType ι
  | i32 => .i32
  | i64 => .i64
  | f32 => .f32
  | f64 => .f64
  | v128 => .v128

def bits : NumType → Nat
  | i32 | f32 => 32
  | i64 | f64 => 64
  | v128 => 128

end NumType

inductive Width
  | w32 | w64
deriving DecidableEq, Repr

namespace Width

def bits : Width → Nat
  | w32 => 32
  | w64 => 64

def int : Width → NumType
  | w32 => .i32
  | w64 => .i64

def float : Width → NumType
  | w32 => .f32
  | w64 => .f64

end Width

inductive IntUnary
  | clz | ctz | popcnt
  | extendSigned (bits : Nat)
deriving DecidableEq, Repr

inductive IntBinary
  | add | sub | mul | divS | divU | remS | remU | and | or | xor | shl | shrS | shrU
  | rotl | rotr
deriving DecidableEq, Repr

inductive IntCompare
  | eq | ne | ltS | ltU | gtS | gtU | leS | leU | geS | geU
deriving DecidableEq, Repr

inductive FloatUnary
  | abs | neg | ceil | floor | trunc | nearest | sqrt
deriving DecidableEq, Repr

inductive FloatBinary
  | add | sub | mul | div | min | max | copysign
deriving DecidableEq, Repr

inductive FloatCompare
  | eq | ne | lt | gt | le | ge
deriving DecidableEq, Repr

/-- Arithmetic on numbers. -/
inductive Numeric
  | intTest (width : Width)
  | intCompare (width : Width) (f : IntCompare)
  | intUnary (width : Width) (f : IntUnary)
  | intBinary (width : Width) (f : IntBinary)
  | floatCompare (width : Width) (f : FloatCompare)
  | floatUnary (width : Width) (f : FloatUnary)
  | floatBinary (width : Width) (f : FloatBinary)
  | wrap
  | extend (signed : Bool)
  | truncate (target source : Width) (signed saturating : Bool)
  | convert (target source : Width) (signed : Bool)
  | demote
  | promote
  | reinterpret (source target : NumType)
deriving DecidableEq, Repr

namespace Numeric

/-- Operand types, in the order of pushing, and the result type. -/
def signature : Numeric → List NumType × NumType
  | intTest w => ([w.int], .i32)
  | intCompare w _ => ([w.int, w.int], .i32)
  | intUnary w _ => ([w.int], w.int)
  | intBinary w _ => ([w.int, w.int], w.int)
  | floatCompare w _ => ([w.float, w.float], .i32)
  | floatUnary w _ => ([w.float], w.float)
  | floatBinary w _ => ([w.float, w.float], w.float)
  | wrap => ([.i64], .i32)
  | extend _ => ([.i32], .i64)
  | truncate target source _ _ => ([source.float], target.int)
  | convert target source _ => ([source.int], target.float)
  | demote => ([.f64], .f32)
  | promote => ([.f32], .f64)
  | reinterpret source target => ([source], target)

end Numeric

/-- Arithmetic on the lanes of an integer vector. -/
inductive LaneBinary
  | add | sub | mul | addSatS | addSatU | subSatS | subSatU | minS | minU | maxS | maxU
  | avgrU | q15mulrSatS
  | compare (f : IntCompare)
deriving DecidableEq, Repr

inductive LaneUnary
  | abs | neg | popcnt
deriving DecidableEq, Repr

inductive LaneShift
  | shl | shrS | shrU
deriving DecidableEq, Repr

inductive FloatLaneBinary
  | arithmetic (f : FloatBinary)
  | compare (f : FloatCompare)
  | pmin | pmax
deriving DecidableEq, Repr

/-- Operations on vectors alone, with or without a number beside them. -/
inductive Vector
  | not | and | andnot | or | xor | bitselect | anyTrue
  | swizzle
  /-- `bits` is the size of a lane. -/
  | splat (bits : Nat) (source : NumType)
  | unary (bits : Nat) (f : LaneUnary)
  | binary (bits : Nat) (f : LaneBinary)
  | shift (bits : Nat) (f : LaneShift)
  | allTrue (bits : Nat)
  | bitmask (bits : Nat)
  | floatUnary (width : Width) (f : FloatUnary)
  | floatBinary (width : Width) (f : FloatLaneBinary)
  /-- From lanes of `bits` to lanes half as wide. -/
  | narrow (bits : Nat) (signed : Bool)
  /-- From lanes of `bits` to lanes twice as wide. -/
  | extend (bits : Nat) (high signed : Bool)
  | extmul (bits : Nat) (high signed : Bool)
  | extaddPairwise (bits : Nat) (signed : Bool)
  | dot
  | truncSat32 (signed : Bool)
  | truncSat64Zero (signed : Bool)
  | convert32 (signed : Bool)
  | convertLow32 (signed : Bool)
  | demoteZero
  | promoteLow
  | relaxedMadd (width : Width) (negated : Bool)
  | laneselect
  | relaxedDot
  | relaxedDotAdd
deriving DecidableEq, Repr

namespace Vector

def signature : Vector → List NumType × NumType
  | bitselect | laneselect | relaxedMadd _ _ | relaxedDotAdd => ([.v128, .v128, .v128], .v128)
  | and | andnot | or | xor | swizzle | binary _ _ | floatBinary _ _ | narrow _ _
  | extmul _ _ _ | dot | relaxedDot => ([.v128, .v128], .v128)
  | anyTrue | allTrue _ | bitmask _ => ([.v128], .i32)
  | splat _ source => ([source], .v128)
  | shift _ _ => ([.v128, .i32], .v128)
  | _ => ([.v128], .v128)

end Vector

/-- What a load makes of the bytes it reads. -/
inductive Load
  | whole (type : NumType)
  | part (type : NumType) (bits : Nat) (signed : Bool)
  /-- Eight bytes as lanes of `bits`, each made twice as wide. -/
  | widened (bits : Nat) (signed : Bool)
  | splatted (bits : Nat)
  | zeroExtended (bits : Nat)
deriving DecidableEq, Repr

namespace Load

def type : Load → NumType
  | whole type | part type _ _ => type
  | _ => .v128

def bits : Load → Nat
  | whole type => type.bits
  | part _ bits _ | splatted bits | zeroExtended bits => bits
  | widened _ _ => 64

end Load

inductive AtomicUpdate
  | add | sub | and | or | xor | exchange
deriving DecidableEq, Repr

inductive Atomic
  | notify
  | wait (width : Width)
  | load (width : Width) (bits : Nat)
  | store (width : Width) (bits : Nat)
  | update (width : Width) (bits : Nat) (f : AtomicUpdate)
  | compareExchange (width : Width) (bits : Nat)
deriving DecidableEq, Repr

namespace Atomic

def bits : Atomic → Nat
  | notify => 32
  | wait width => width.bits
  | load _ bits | store _ bits | update _ bits _ | compareExchange _ bits => bits

/-- Operands above the address, and the result. -/
def signature : Atomic → List NumType × Option NumType
  | notify => ([.i32], some .i32)
  | wait width => ([width.int, .i64], some .i32)
  | load width _ => ([], some width.int)
  | store width _ => ([width.int], none)
  | update width _ _ => ([width.int], some width.int)
  | compareExchange width _ => ([width.int, width.int], some width.int)

end Atomic

/-- What follows an operation. -/
inductive Shape
  | none | block | tryTable | label | labels
  | func | local | global | type | tag | elem | data
  | table | memory
  | callIndirect | tableInit | tableCopy | memoryInit | memoryCopy
  | field | typePair | typeCount | typeData | typeElem
  | select | heap | refType | cast
  | access | accessLane | const (type : NumType)
  | lane | shuffle
deriving DecidableEq, Repr

inductive Op
  | unreachable | nop | block | loop | cond | otherwise | finish
  | br | brIf | brTable | ret
  | call | callIndirect | tailCall | tailCallIndirect | callRef | tailCallRef
  | throw | throwRef | tryTable
  | legacyTry | legacyCatch | legacyCatchAll | rethrow | delegate
  | drop | select | selectTyped
  | localGet | localSet | localTee | globalGet | globalSet
  | tableGet | tableSet | tableInit | elemDrop | tableCopy | tableGrow | tableSize | tableFill
  | memorySize | memoryGrow | memoryInit | dataDrop | memoryCopy | memoryFill
  | const (type : NumType)
  | load (f : Load)
  | store (type : NumType) (bits : Nat)
  | numeric (f : Numeric)
  | wideArithmetic (operands : Nat)
  | refNull | refIsNull | refFunc | refEq | refAsNonNull | brOnNull | brOnNonNull
  | structNew | structNewDefault | structGet (extend : Option Bool) | structSet
  | arrayNew | arrayNewDefault | arrayNewFixed | arrayNewData | arrayNewElem
  | arrayGet (extend : Option Bool) | arraySet | arrayLen | arrayFill | arrayCopy
  | arrayInitData | arrayInitElem
  | refTest (nullable : Bool) | refCast (nullable : Bool) | brOnCast (onFailure : Bool)
  | internalize | externalize | refI31 | i31Get (signed : Bool)
  | vector (f : Vector)
  | extractLane (bits : Nat) (type : NumType) (signed : Bool)
  | replaceLane (bits : Nat) (type : NumType)
  | shuffle
  | loadLane (bits : Nat)
  | storeLane (bits : Nat)
  | atomic (f : Atomic)
  | fence
deriving DecidableEq, Repr

namespace Op

def shape : Op → Shape
  | block | loop | cond | legacyTry => .block
  | tryTable => .tryTable
  | br | brIf | brOnNull | brOnNonNull | rethrow | delegate => .label
  | brTable => .labels
  | call | tailCall | refFunc => .func
  | callIndirect | tailCallIndirect => .callIndirect
  | callRef | tailCallRef | structNew | structNewDefault | arrayNew | arrayNewDefault
  | arrayGet _ | arraySet | arrayFill => .type
  | throw | legacyCatch => .tag
  | selectTyped => .select
  | localGet | localSet | localTee => .local
  | globalGet | globalSet => .global
  | tableGet | tableSet | tableGrow | tableSize | tableFill => .table
  | tableInit => .tableInit
  | elemDrop => .elem
  | tableCopy => .tableCopy
  | memorySize | memoryGrow | memoryFill => .memory
  | memoryInit => .memoryInit
  | dataDrop => .data
  | memoryCopy => .memoryCopy
  | const type => .const type
  | load _ | store _ _ | atomic _ => .access
  | refNull => .heap
  | structGet _ | structSet => .field
  | arrayNewFixed => .typeCount
  | arrayNewData | arrayInitData => .typeData
  | arrayNewElem | arrayInitElem => .typeElem
  | arrayCopy => .typePair
  | refTest _ | refCast _ => .refType
  | brOnCast _ => .cast
  | extractLane _ _ _ | replaceLane _ _ => .lane
  | shuffle => .shuffle
  | loadLane _ | storeLane _ => .accessLane
  | _ => .none

/-- Bytes that a memory access touches. -/
def accessBytes : Op → Nat
  | load f => f.bits / 8
  | store _ bits | loadLane bits | storeLane bits => bits / 8
  | atomic f => f.bits / 8
  | _ => 1

/-- Whether the operation opens a block that `end` closes. -/
def opensBlock : Op → Bool
  | block | loop | cond | tryTable | legacyTry => true
  | _ => false

/-- Whether a data count has to stand before the code that holds the operation. -/
def needsDataCount : Op → Bool
  | memoryInit | dataDrop | arrayNewData | arrayInitData => true
  | _ => false

end Op

/-- One row of the instruction set: the mnemonic, the byte before the code where
there is one, the code, and what it does. -/
structure Operation where
  name : String
  lead : Option UInt8
  code : Nat
  op : Op
deriving DecidableEq, Repr

namespace Operation

def shape (o : Operation) : Shape := o.op.shape

/-- The mnemonic with underscores. -/
def plainName (o : Operation) : String :=
  o.name.map fun c => if c = '.' then '_' else c

end Operation

end Rerun.Wasm
