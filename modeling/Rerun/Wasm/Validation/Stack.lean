import Rerun.Wasm.Validation.Context

/-! The operand stack and the open blocks while a body is validated. -/

namespace Rerun.Wasm

/-- What is known of an operand; in code that cannot be reached it may be anything. -/
inductive Operand
  | known (type : ValType Nat)
  | anything
  | anyReference
deriving DecidableEq, Repr

inductive FrameKind
  | block | loop | cond | otherwise
deriving DecidableEq, Repr

structure Frame where
  kind : FrameKind
  type : BlockType Nat
  /-- Size of the stack below the block. -/
  height : Nat
  isUnreachable : Bool := false
  /-- Locals that were set before the block. -/
  setLocals : List Nat

structure BodyState where
  /-- Where the instruction stands. -/
  offset : Nat := 0
  operands : Array Operand := #[]
  /-- The innermost first. -/
  frames : List Frame := []
  locals : Array (ValType Nat) := #[]
  /-- Locals without a default value that have been set. -/
  setLocals : List Nat := []
  /-- Where the last block was closed. -/
  closedAt : Option Nat := none

abbrev CheckBody := StateT BodyState Read

namespace CheckBody

def fail {α : Type} (message : String) : CheckBody α := do Read.failAt (← get).offset message

def require (holds : Bool) (message : String) : CheckBody Unit :=
  if holds then return () else fail message

def demand (feature : Feature) (message : String) : CheckBody Unit := do
  Read.demand feature (← get).offset message

/-- A demand of the operations of a feature. -/
def needs (feature : Feature) : CheckBody Unit :=
  demand feature s!"{feature.operations} support is not enabled"

def beyondEnd : String := "operators remaining after end of function"

def frame : CheckBody Frame := do
  match (← get).frames with
  | f :: _ => return f
  | [] => fail beyondEnd

def push (type : ValType Nat) : CheckBody Unit :=
  modify fun s => { s with operands := s.operands.push (.known type) }

def pushOperand (o : Operand) : CheckBody Unit :=
  modify fun s => { s with operands := s.operands.push o }

def pushAll (types : List (ValType Nat)) : CheckBody Unit := types.forM push

/-- Takes the operand on top; `wanted` names what should have been there. -/
def take (wanted : String) : CheckBody Operand := do
  let f ← frame
  let s ← get
  if s.operands.size ≤ f.height then
    if f.isUnreachable then return .anything
    else fail s!"type mismatch: expected {wanted} but nothing on stack"
  else
    let top := s.operands.back?.getD .anything
    set { s with operands := s.operands.pop }
    return top

def popAny : CheckBody Operand := take "a type"

variable (ctx : Context)

/-- Takes an operand of a type and tells what it was. -/
def popAs (type : ValType Nat) : CheckBody Operand := do
  let found ← take type.shown
  match found with
  | .anything => return found
  | .anyReference =>
      require type.isRef s!"type mismatch: expected {type.shown}, found heap type"
      return found
  | .known actual =>
      require (ctx.within actual type)
        s!"type mismatch: expected {type.shown}, found {actual.shown}"
      return found

def pop (type : ValType Nat) : CheckBody Unit := do
  let _ ← popAs ctx type

/-- Takes operands of the types, the last of which is on top. -/
def popAll (types : List (ValType Nat)) : CheckBody Unit := types.reverse.forM (pop ctx)

/-- Takes a reference; none where it may be any. -/
def popRef : CheckBody (Option (RefType Nat)) := do
  match ← popAny with
  | .anything | .anyReference => return none
  | .known (.ref type) => return some type
  | .known type => fail s!"type mismatch: expected ref but found {type.shown}"

/-- The operands of the types are there, and stay as they are. -/
def keep (types : List (ValType Nat)) : CheckBody Unit := do
  let found ← types.reverse.mapM (popAs ctx)
  found.reverse.forM pushOperand

def retype (types : List (ValType Nat)) : CheckBody Unit := do
  popAll ctx types
  pushAll types

def unreachable : CheckBody Unit := do
  let f ← frame
  modify fun s =>
    { s with
      operands := s.operands.shrink f.height
      frames := { f with isUnreachable := true } :: s.frames.tail }

/-! Blocks -/

def params : BlockType Nat → List (ValType Nat)
  | .func type => ((ctx.funcType? type).map (·.params)).getD []
  | _ => []

def results : BlockType Nat → List (ValType Nat)
  | .empty => []
  | .result type => [type]
  | .func type => ((ctx.funcType? type).map (·.results)).getD []

/-- What a branch to the block takes along. -/
def labelTypes (f : Frame) : List (ValType Nat) :=
  match f.kind with
  | .loop => params ctx f.type
  | _ => results ctx f.type

def funcTypeAt (index : Nat) : CheckBody (FuncType Nat) := do
  match ctx.types[index]? with
  | none => fail "unknown type: type index out of bounds"
  | some { composite := .func type, .. } => return type
  | some _ => fail s!"expected func type at index {index}"

def checkBlockType : BlockType Nat → CheckBody Unit
  | .empty => return ()
  | .result type => do Check.valType ctx (← get).offset type
  | .func type => do
      let _ ← funcTypeAt ctx type

def enter (kind : FrameKind) (type : BlockType Nat) : CheckBody Unit := do
  modify fun s =>
    { s with
      frames := ⟨kind, type, s.operands.size, false, s.setLocals⟩ :: s.frames }
  pushAll (params ctx type)

/-- Closes the innermost block, whose results must be all that is left in it. -/
def leave : CheckBody Frame := do
  let f ← frame
  popAll ctx (results ctx f.type)
  require ((← get).operands.size == f.height)
    "type mismatch: values remaining on stack at end of block"
  modify fun s => { s with frames := s.frames.tail, setLocals := f.setLocals }
  return f

/-- The block that a label means. -/
def target (depth : Nat) : CheckBody Frame := do
  let _ ← frame
  match (← get).frames[depth]? with
  | some f => return f
  | none => fail "unknown label: branch depth too large"

def outermost : CheckBody Frame := do
  let f ← frame
  return ((← get).frames.getLast?).getD f

/-- The results of the function, taken. -/
def giveBack : CheckBody Unit := do
  let f ← outermost
  popAll ctx (results ctx f.type)
  unreachable

end CheckBody

end Rerun.Wasm
