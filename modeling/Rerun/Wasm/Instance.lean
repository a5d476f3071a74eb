import Rerun.Wasm.Machine.Execute

/-! A module brought to life: its store is set up, its segments are put in place and its
start function is run. -/

namespace Rerun.Wasm

/-- What is needed to call into a module. -/
structure Instance where
  program : Program
  store : Store
  exports : List Export

/-- Why a module does not come to life. -/
inductive InstantiationError
  | imports (count : Nat)
  | trap (t : Trap)

namespace InstantiationError

def message : InstantiationError → String
  | imports count => s!"expected {count} imports, found 0"
  | trap t => t.message

end InstantiationError

namespace Constant

/-- The stack after an instruction of a constant. -/
def step (globals : Array Nat) (stack : List Nat) (i : Instr Nat) : List Nat :=
  match i.op, i.immediate, stack with
  | .const _, .bits n, stack => n :: stack
  | .refNull, _, stack => 0 :: stack
  | .refFunc, .index f, stack => (f + 1) :: stack
  | .globalGet, .index g, stack => (globals[g]?).getD 0 :: stack
  | .numeric f, _, b :: a :: rest =>
      match f.apply a b with
      | .ok n => n :: rest
      | .error _ => 0 :: rest
  | _, _, stack => stack

/-- The value of a constant. -/
def value (globals : Array Nat) (code : Code) : Nat :=
  (code.foldl (step globals) []).headD 0

end Constant

namespace Store

def initialGlobals (m : Module) : Array Nat :=
  m.globals.foldl (fun globals g => globals.push (Constant.value globals g.initial)) #[]

def itemsOf (globals : Array Nat) : ElemItems → List Reference
  | .functions indices => indices.map (· + 1)
  | .expressions _ items => items.map (Constant.value globals)

/-- The store before any segment is put in place. -/
def initial (m : Module) : Store :=
  let globals := initialGlobals m
  { memories := (m.memories.map Memory.ofLimits).toArray
    tables := (m.tables.map fun t => RefTable.ofLimits t.type.limits).toArray
    globals
    elems := (m.elems.map fun e => itemsOf globals e.items).toArray
    datas := (m.datas.map (·.bytes)).toArray }

/-- Puts a segment of references in place, after which it is dropped. -/
def placeElem (s : Store) (e : Elem) (i : Nat) : Except Trap Store := do
  match e.mode with
  | .passive => return s
  | .declared => return { s with elems := s.elems.setIfInBounds i [] }
  | .active table offset =>
      let index := table.getD 0
      let rs := (s.elems[i]?).getD []
      match s.tables[index]? with
      | none => throw .tableAccess
      | some t =>
          let t ← t.put (Constant.value s.globals offset) rs
          return { s with
            tables := s.tables.setIfInBounds index t
            elems := s.elems.setIfInBounds i [] }

/-- Puts a segment of bytes in place, after which it is dropped. -/
def placeData (s : Store) (d : Data) (i : Nat) : Except Trap Store := do
  match d.mode with
  | .passive => return s
  | .active memory offset =>
      match s.memories[memory]? with
      | none => throw .memoryAccess
      | some held =>
          let held ← held.init d.bytes (Constant.value s.globals offset) 0 d.bytes.size
          return { s with
            memories := s.memories.setIfInBounds memory held
            datas := s.datas.setIfInBounds i .empty }

/-- The store with all segments in place, those of references first. -/
def ofModule (m : Module) : Except Trap Store := do
  let s ← m.elems.zipIdx.foldlM (fun s (e, i) => s.placeElem e i) (initial m)
  m.datas.zipIdx.foldlM (fun s (d, i) => s.placeData d i) s

end Store

namespace Instance

def started (p : Program) (store : Store) : Option Nat → Except Trap Store
  | none => .ok store
  | some start =>
      match p.functions[start]? with
      | none => .error .nullCall
      | some f => do
          let (_, store) ← Machine.call p store f
          return store

def ofModule (m : Module) : Except InstantiationError Instance :=
  if m.imports.isEmpty then
    let p := Program.ofModule m
    let store := do started p (← Store.ofModule m) m.start
    match store with
    | .ok store => .ok ⟨p, store, m.exports⟩
    | .error t => .error (.trap t)
  else .error (.imports m.imports.length)

end Instance

end Rerun.Wasm
