import Rerun.Wasm.Machine.Memory
import Rerun.Wasm.Machine.Program

/-! The state of a running program, and the moves on its stacks.  Values are held as
their bits; code that was validated takes none that is not there. -/

namespace Rerun.Wasm

/-- What calls leave behind. -/
structure Store where
  memories : Array Memory := #[]
  tables : Array RefTable := #[]
  globals : Array Nat := #[]
  /-- Segments; a dropped one is empty. -/
  elems : Array (List Reference) := #[]
  datas : Array ByteArray := #[]

/-- A block that has been entered. -/
structure Label where
  /-- How many values a branch takes along. -/
  arity : Nat
  /-- The stack below the block. -/
  below : List Nat
  /-- Where a branch goes on. -/
  target : List Node
  /-- Where the end of the block goes on. -/
  next : List Node

/-- A function that waits for the one it has called. -/
structure Caller where
  code : List Node
  stack : List Nat
  labels : List Label
  locals : Array Nat
  results : Nat

structure Machine where
  code : List Node
  /-- The top first. -/
  stack : List Nat
  /-- The innermost first. -/
  labels : List Label
  locals : Array Nat
  /-- How many values the function gives. -/
  results : Nat
  callers : List Caller
  depth : Nat
  store : Store

/-- A move that a trap may end. -/
abbrev Step := StateT Machine (Except Trap)

namespace Step

def trap {α : Type} (t : Trap) : Step α := throw t

def push (v : Nat) : Step Unit := modify fun m => { m with stack := v :: m.stack }

def pop : Step Nat := modifyGet fun m => (m.stack.headD 0, { m with stack := m.stack.tail })

/-- Takes the two on top, the lower first. -/
def pop2 : Step (Nat × Nat) := do
  let b ← pop
  let a ← pop
  return (a, b)

def pop3 : Step (Nat × Nat × Nat) := do
  let c ← pop
  let (a, b) ← pop2
  return (a, b, c)

def goto (code : List Node) : Step Unit := modify fun m => { m with code }

def enter (label : Label) (code : List Node) : Step Unit :=
  modify fun m => { m with code, labels := label :: m.labels }

/-- Gives the values on top back to the caller. -/
def giveBack : Step Unit :=
  modify fun m =>
    let values := m.stack.take m.results
    match m.callers with
    | [] => { m with code := [], labels := [], stack := values }
    | c :: callers =>
        { m with
          code := c.code
          stack := values ++ c.stack
          labels := c.labels
          locals := c.locals
          results := c.results
          callers
          depth := m.depth - 1 }

/-- A label beyond the blocks means the function. -/
def branch (depth : Nat) : Step Unit := do
  let m ← get
  match m.labels.drop depth with
  | [] => giveBack
  | label :: labels =>
      set { m with
        code := label.target, labels, stack := m.stack.take label.arity ++ label.below }

/-- Most calls that may be open: 512 KiB of 32 bytes each. -/
def maxDepth : Nat := 16384

def localsFor (f : Function) (args : List Nat) : Array Nat :=
  args.toArray ++ Array.replicate f.locals 0

def call (f : Function) : Step Unit := do
  let m ← get
  if maxDepth ≤ m.depth then trap .stackExhausted
  let count := f.type.params.length
  set { m with
    code := f.body
    stack := []
    labels := []
    locals := localsFor f (m.stack.take count).reverse
    results := f.type.results.length
    callers := ⟨m.code, m.stack.drop count, m.labels, m.locals, m.results⟩ :: m.callers
    depth := m.depth + 1 }

/-- A call in the place of the function that makes it. -/
def tailCall (f : Function) : Step Unit := do
  let m ← get
  set { m with
    code := f.body
    stack := []
    labels := []
    locals := localsFor f (m.stack.take f.type.params.length).reverse
    results := f.type.results.length }

/-! The store -/

def store : Step Store := return (← get).store

def updateStore (f : Store → Store) : Step Unit := modify fun m => { m with store := f m.store }

def memory (i : Nat) : Step Memory := do
  match (← store).memories[i]? with
  | some m => return m
  | none => trap .memoryAccess

/-- Changes a memory, which is taken out of the store meanwhile. -/
def changeMemory (i : Nat) (f : Memory → Except Trap Memory) : Step Unit := do
  let held ← memory i
  updateStore fun s => { s with memories := s.memories.modify i fun m => { m with chunks := ∅ } }
  let held ← f held
  updateStore fun s => { s with memories := s.memories.modify i fun _ => held }

def table (i : Nat) : Step RefTable := do
  match (← store).tables[i]? with
  | some t => return t
  | none => trap .tableAccess

def changeTable (i : Nat) (f : RefTable → Except Trap RefTable) : Step Unit := do
  let changed ← f (← table i)
  updateStore fun s => { s with tables := s.tables.modify i fun _ => changed }

def elem (i : Nat) : Step (List Reference) := return ((← store).elems[i]?).getD []

def data (i : Nat) : Step ByteArray := return ((← store).datas[i]?).getD .empty

end Step

end Rerun.Wasm
