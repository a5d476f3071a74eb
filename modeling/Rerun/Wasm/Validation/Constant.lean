import Rerun.Wasm.Validation.Instruction

/-! Validation of constants: code without control flow that gives one value before
anything runs. -/

namespace Rerun.Wasm

namespace BodyState

/-- Before the first instruction of code with these results. -/
def opened (type : BlockType Nat) : BodyState :=
  { frames := [⟨.block, type, 0, false, []⟩] }

end BodyState

namespace Context

def declare (ctx : Context) (function : Nat) : Context :=
  { ctx with declared := function :: ctx.declared }

end Context

namespace Constant

open CheckBody

/-- How a message names an operation that is no constant. -/
def visitName (o : Operation) : String :=
  let suffix :=
    match o.op with
    | .refTest true | .refCast true => "_nullable"
    | .refTest false | .refCast false => "_non_null"
    | _ => ""
  match o.op with
  | .selectTyped => "visit_typed_select"
  | _ => "visit_" ++ o.plainName ++ suffix

def notConstant (name : String) : String :=
  s!"constant expression required: non-constant operator: {name}"

def checkGlobal (ctx : Context) (index : Nat) : CheckBody Unit := do
  match ctx.globals[index]? with
  | none => fail s!"unknown global {index}: global index out of bounds"
  | some type =>
      if ctx.importedGlobals ≤ index then
        demand .gc "constant expression required: global.get of locally defined global"
      require (!type.isMutable) "constant expression required: global.get of mutable global"

/-- The operation may stand in a constant. -/
def permit (ctx : Context) (i : Instr Nat) : CheckBody Unit := do
  match i.op, i.immediate with
  | .const _, _ | .refNull, _ | .refFunc, _ | .finish, _
  | .numeric (.intBinary _ .add), _ | .numeric (.intBinary _ .sub), _
  | .numeric (.intBinary _ .mul), _ => return ()
  | .globalGet, .index global => checkGlobal ctx global
  | .structNew, _ | .structNewDefault, _ | .arrayNew, _ | .arrayNewDefault, _
  | .arrayNewFixed, _ | .refI31, _ | .internalize, _ | .externalize, _ =>
      demand .gc (notConstant i.operation.name)
  | _, _ => fail (notConstant (visitName i.operation))

/-- What the context becomes when the functions that are referred to are declared. -/
def declaredBy (ctx : Context) (i : Instr Nat) : Context :=
  match i.op, i.immediate with
  | .refFunc, .index function => ctx.declare function
  | _, _ => ctx

def check (declares : Bool) (ctx : Context) : List Read.Located → CheckBody Context
  | [] => return ctx
  | i :: rest => do
      modify fun s => { s with offset := i.offset }
      permit ctx i.instr
      let ctx := if declares then declaredBy ctx i.instr else ctx
      CheckBody.instr ctx i.instr
      check declares ctx rest

/-- Checks a constant of a type; the context comes back with what it declares. -/
def validate (ctx : Context) (declares : Bool) (type : ValType Nat)
    (code : List Read.Located) : Read Context := do
  let (checked, _) ← (check declares ctx code).run (.opened (.result type))
  return checked

/-- The code without the `end` that closes it. -/
def code (located : List Read.Located) : Code := (located.map (·.instr)).dropLast

end Constant

end Rerun.Wasm
