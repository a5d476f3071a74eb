import Rerun.Wasm.Module

/-! A module made ready to run: the blocks of every body as a tree. -/

namespace Rerun.Wasm

/-- Code in which blocks hold what stands inside them. -/
inductive Node
  | instr (i : Instr Nat)
  /-- How many values go in and come out. -/
  | block (params results : Nat) (body : List Node)
  | loop (params : Nat) (body : List Node)
  | cond (params results : Nat) (body otherwise : List Node)
deriving Inhabited

namespace Node

/-- A block that is being read. -/
structure Open where
  op : Op
  params : Nat
  results : Nat
  /-- What stood in the block before an `else`. -/
  before : Option (List Node)
  /-- The latest first. -/
  found : List Node

def Open.close (o : Open) : Node :=
  let found := o.found.reverse
  match o.op, o.before with
  | .loop, _ => .loop o.params found
  | .cond, none => .cond o.params o.results found []
  | .cond, some before => .cond o.params o.results before found
  | _, _ => .block o.params o.results found

/-- The blocks that are open, the innermost first, over the code of the body. -/
structure Reading where
  opened : List Open := []
  /-- The latest first. -/
  found : List Node := []

namespace Reading

def add (r : Reading) (n : Node) : Reading :=
  match r.opened with
  | [] => { r with found := n :: r.found }
  | o :: rest => { r with opened := { o with found := n :: o.found } :: rest }

def next (arity : BlockType Nat → Nat × Nat) (r : Reading) (i : Instr Nat) : Reading :=
  match i.op, i.immediate, r.opened with
  | .finish, _, o :: rest => { r with opened := rest }.add o.close
  | .otherwise, _, o :: rest =>
      { r with opened := { o with before := some o.found.reverse, found := [] } :: rest }
  | op, .block type, _ =>
      let (params, results) := arity type
      { r with opened := ⟨op, params, results, none, []⟩ :: r.opened }
  | _, _, _ => r.add (.instr i)

end Reading

/-- The tree of a flat sequence in which every block is closed. -/
def ofCode (arity : BlockType Nat → Nat × Nat) (code : Code) : List Node :=
  (code.foldl (Reading.next arity) {}).found.reverse

end Node

structure Function where
  type : FuncType Nat
  /-- How many locals it has beside its parameters. -/
  locals : Nat
  body : List Node

/-- What does not change while a module runs. -/
structure Program where
  types : Array (FuncType Nat)
  functions : Array Function

namespace Program

/-- The types of a module by their index; one that is no type of functions is
never asked for. -/
def typesOf (m : Module) : Array (FuncType Nat) :=
  ((m.types.flatMap (·.types)).map fun t =>
    match t.composite with
    | .func type => type
    | _ => ⟨[], []⟩).toArray

def typeAt (types : Array (FuncType Nat)) (i : Nat) : FuncType Nat := (types[i]?).getD ⟨[], []⟩

def arity (types : Array (FuncType Nat)) : BlockType Nat → Nat × Nat
  | .empty => (0, 0)
  | .result _ => (0, 1)
  | .func type =>
      let t := typeAt types type
      (t.params.length, t.results.length)

/-- The program of a module without imports. -/
def ofModule (m : Module) : Program :=
  let types := typesOf m
  let functions := List.zipWith
    (fun type (body : Body) =>
      ⟨typeAt types type, body.locals.length, Node.ofCode (arity types) body.code⟩)
    m.functions m.bodies
  ⟨types, functions.toArray⟩

end Program

end Rerun.Wasm
