import Rerun.Wasm.Machine.Lanes
import Rerun.Wasm.Machine.State

/-! What each instruction does, and running until a function gives its values. -/

namespace Rerun.Wasm

namespace Step

variable (p : Program)

/-! Numbers and vectors -/

def numeric (f : Numeric) : Step Unit := do
  let (a, b) ← if f.isBinary then pop2 else do pure (← pop, 0)
  push (← f.apply a b)

def vector (f : Vector) : Step Unit := do
  let (a, b, c) ← match f.operandCount with
    | 1 => do pure (← pop, 0, 0)
    | 2 => do
        let (a, b) ← pop2
        pure (a, b, 0)
    | _ => pop3
  push (f.apply a b c)

def lanes (op : Op) (indices : List Nat) : Step Unit := do
  let lane := indices.headD 0
  match op with
  | .extractLane bits _ signed => push (extractedLane bits signed lane (← pop))
  | .replaceLane bits _ => do
      let (v, n) ← pop2
      push (withLane bits lane v n)
  | _ =>
      let (a, b) ← pop2
      push (shuffled indices a b)

/-! Memory -/

def wait (address : Nat) (bytes expected timeout : Nat) (m : Memory) : Step Unit := do
  m.inside address bytes
  if !m.isShared then trap .waitOnPrivateMemory
  let held ← m.read address bytes
  -- nobody ever notifies, so a wait lasts as long as it may
  if timeout < Nat.pow 2 63 || held != expected then push (if held = expected then 2 else 1)
  else trap .outOfFuel

/-- An atomic access to an address that is a multiple of its size. -/
def atomic (f : Atomic) (arg : MemArg Nat) : Step Unit := do
  let bytes := f.bits / 8
  let (first, second) ← match f with
    | .load _ _ => pure (0, 0)
    | .notify | .store _ _ | .update _ _ _ => do pure (← pop, 0)
    | .wait _ | .compareExchange _ _ => pop2
  let address := (← pop) + arg.offset
  if address % bytes != 0 then trap .unalignedAtomic
  let m ← memory arg.memory
  let held ← m.read address bytes
  match f with
  | .notify => push 0
  | .wait _ => wait address bytes first second m
  | .load _ _ => push held
  | .store _ _ => changeMemory arg.memory (·.write address bytes first)
  | .update _ _ f =>
      changeMemory arg.memory (·.write address bytes (f.apply (8 * bytes) held first))
      push held
  | .compareExchange _ _ =>
      if held = first then changeMemory arg.memory (·.write address bytes second)
      push held

def access (op : Op) (arg : MemArg Nat) (lane : Nat) : Step Unit := do
  let bytes := op.accessBytes
  match op with
  | .load f =>
      let address := (← pop) + arg.offset
      push (f.value (← (← memory arg.memory).read address bytes))
  | .store _ _ =>
      let (base, value) ← pop2
      changeMemory arg.memory (·.write (base + arg.offset) bytes value)
  | .loadLane bits =>
      let (base, v) ← pop2
      let n ← (← memory arg.memory).read (base + arg.offset) bytes
      push (withLane bits lane v n)
  | .storeLane bits =>
      let (base, v) ← pop2
      changeMemory arg.memory (·.write (base + arg.offset) bytes (extractedLane bits false lane v))
  | .atomic f => atomic f arg
  | _ => return ()

/-- What a growth that fails gives. -/
def refused : Nat := Nat.pow 2 32 - 1

def memoryGrow (i : Nat) : Step Unit := do
  let delta ← pop
  match (← memory i).grow delta with
  | none => push refused
  | some (before, m) =>
      changeMemory i fun _ => .ok m
      push before

def memoryInit (segment i : Nat) : Step Unit := do
  let (target, source, count) ← pop3
  let bytes ← data segment
  changeMemory i (·.init bytes target source count)

def memoryCopy (i j : Nat) : Step Unit := do
  let (target, source, count) ← pop3
  let held ← memory j
  changeMemory i (·.copy held target source count)

/-! Tables -/

def tableGrow (i : Nat) : Step Unit := do
  let (r, delta) ← pop2
  match (← table i).grow delta r with
  | none => push refused
  | some (before, t) =>
      changeTable i fun _ => .ok t
      push before

def tableInit (segment i : Nat) : Step Unit := do
  let (target, source, count) ← pop3
  let rs ← elem segment
  changeTable i (·.init rs target source count)

def tableCopy (i j : Nat) : Step Unit := do
  let (target, source, count) ← pop3
  let held ← table j
  changeTable i (·.copy held target source count)

/-! Calls -/

def function (i : Nat) : Step Function := do
  match p.functions[i]? with
  | some f => return f
  | none => trap .nullCall

/-- The function in a table, which must have the type. -/
def callee (type i : Nat) : Step Function := do
  let r ← (← table i).get (← pop)
  if r = 0 then trap .nullCall
  let f ← function p (r - 1)
  if f.type != Program.typeAt p.types type then trap .signatureMismatch
  return f

/-! Instructions by what follows them -/

def plain (op : Op) : Step Unit := do
  match op with
  | .unreachable => trap .unreachable
  | .ret => giveBack
  | .drop => modify fun m => { m with stack := m.stack.tail }
  | .select =>
      let (a, b, c) ← pop3
      push (if c = 0 then b else a)
  | .numeric f => numeric f
  | .vector f => vector f
  | .refIsNull => push (flag ((← pop) == 0))
  | _ => return ()

def indexed (op : Op) (i : Nat) : Step Unit := do
  match op with
  | .br => branch i
  | .brIf => if (← pop) != 0 then branch i
  | .call => call (← function p i)
  | .tailCall => tailCall (← function p i)
  | .refFunc => push (i + 1)
  | .localGet => push (((← get).locals[i]?).getD 0)
  | .localSet =>
      modify fun m =>
        { m with locals := m.locals.setIfInBounds i (m.stack.headD 0), stack := m.stack.tail }
  | .localTee =>
      modify fun m => { m with locals := m.locals.setIfInBounds i (m.stack.headD 0) }
  | .globalGet => push (((← store).globals[i]?).getD 0)
  | .globalSet =>
      let v ← pop
      updateStore fun s => { s with globals := s.globals.setIfInBounds i v }
  | .memorySize => push (← memory i).pages
  | .memoryGrow => memoryGrow i
  | .memoryFill =>
      let (start, b, count) ← pop3
      changeMemory i (·.fill start count (UInt8.ofNat b))
  | .dataDrop => updateStore fun s => { s with datas := s.datas.setIfInBounds i .empty }
  | .elemDrop => updateStore fun s => { s with elems := s.elems.setIfInBounds i [] }
  | .tableGet => push (← (← table i).get (← pop))
  | .tableSet =>
      let (index, r) ← pop2
      changeTable i (·.put index [r])
  | .tableSize => push (← table i).size
  | .tableGrow => tableGrow i
  | .tableFill =>
      let (start, r, count) ← pop3
      changeTable i (·.fill start count r)
  | _ => return ()

def paired (op : Op) (i j : Nat) : Step Unit := do
  match op with
  | .callIndirect => call (← callee p i j)
  | .tailCallIndirect => tailCall (← callee p i j)
  | .tableInit => tableInit i j
  | .tableCopy => tableCopy i j
  | .memoryInit => memoryInit i j
  | .memoryCopy => memoryCopy i j
  | _ => return ()

def instr (i : Instr Nat) : Step Unit := do
  match i.immediate with
  | .none => plain i.op
  | .index n => indexed p i.op n
  | .bits n => push n
  | .access arg => access i.op arg 0
  | .accessLane arg lane => access i.op arg lane
  | .pair n m => paired p i.op n m
  | .labels targets default => branch ((targets[← pop]?).getD default)
  | .select _ => plain .select
  | .heap _ => push 0
  | .lanes indices => lanes i.op indices
  | _ => return ()

def node (n : Node) (rest : List Node) : Step Unit := do
  match n with
  | .instr i =>
      goto rest
      instr p i
  | .block params results body =>
      let below := (← get).stack.drop params
      enter ⟨results, below, rest, rest⟩ body
  | .loop params body =>
      let below := (← get).stack.drop params
      enter ⟨params, below, n :: rest, rest⟩ body
  | .cond params results body otherwise =>
      let holds := (← pop) != 0
      let below := (← get).stack.drop params
      enter ⟨results, below, rest, rest⟩ (if holds then body else otherwise)

/-- The next move: an instruction, the end of a block or the end of a function. -/
def next : Step Unit := do
  let m ← get
  match m.code, m.labels with
  | n :: rest, _ => node p n rest
  | [], label :: labels => set { m with code := label.next, labels }
  | [], [] => giveBack

end Step

namespace Machine

def isFinished (m : Machine) : Bool :=
  m.code.isEmpty && m.labels.isEmpty && m.callers.isEmpty

/-- A machine that is about to run a function without parameters. -/
def start (store : Store) (f : Function) : Machine :=
  { code := f.body, stack := [], labels := [], locals := Step.localsFor f []
    results := f.type.results.length, callers := [], depth := 1, store }

/-- So many moves at most. -/
def run (p : Program) : Nat → Machine → Except Trap Machine
  | 0, _ => .error .outOfFuel
  | fuel + 1, m =>
      if m.isFinished then .ok m
      else
        match (Step.next p).run m with
        | .error t => .error t
        | .ok ((), m) => run p fuel m

/-- Moves that no program lives to make. -/
def fuel : Nat := Nat.pow 2 62

/-- What a function without parameters gives, in the order of its results, and what it
leaves behind. -/
def call (p : Program) (store : Store) (f : Function) : Except Trap (List Nat × Store) := do
  let m ← run p fuel (start store f)
  return ((m.stack.take m.results).reverse, m.store)

end Machine

end Rerun.Wasm
