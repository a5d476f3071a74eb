import Rerun.Wasm.Validation.Constant

/-! Validation of the body of a function. -/

namespace Rerun.Wasm.CheckBody

variable (ctx : Context)

def maxLocals : Nat := 50000

def addLocals (offset count : Nat) (type : ValType Nat) : CheckBody Unit := do
  Check.valType ctx offset type
  let s ← get
  if maxLocals < s.locals.size + count then
    Read.failAt offset "too many locals: locals exceed maximum"
  set { s with locals := s.locals ++ Array.replicate count type }

def readLocals : Nat → CheckBody Unit
  | 0 => return ()
  | n + 1 => do
      let offset ← Read.position
      let count ← Read.u32
      addLocals ctx offset count (← Read.valType)
      readLocals n

/-- Instructions up to the end of the body, the latest first. -/
def readCode : Nat → Code → CheckBody Code
  | 0, code => return code
  | fuel + 1, code => do
      if ← Read.atEnd then return code
      let i ← Read.located
      modify fun s => { s with offset := i.offset }
      instr ctx i.instr
      readCode fuel (i.instr :: code)

/-- All code was read when the last block was closed. -/
def finished (stop : Nat) : CheckBody Unit := do
  let s ← get
  if !s.frames.isEmpty then
    Read.failAt stop "control frames remain at end of function: END opcode expected"
  if s.closedAt.map (· + 1) != some stop then Read.failAt stop beyondEnd

/-- The body of a function whose type has the index. -/
def body (type : Nat) : CheckBody Body := do
  let params := ((ctx.funcType? type).map (·.params)).getD []
  modify fun s =>
    { s with locals := params.toArray, setLocals := List.range params.length }
  readLocals ctx (← Read.u32)
  let code ← readCode ctx ((← Read.remaining) + 1) []
  finished (← Read.position)
  return ⟨(← get).locals.toList.drop params.length, code.tail.reverse⟩

end Rerun.Wasm.CheckBody

namespace Rerun.Wasm

/-- Where the body of a function lies. -/
structure BodyRange where
  type : Nat
  start : Nat
  size : Nat

def Check.body (ctx : Context) (range : BodyRange) : Read Body := do
  modify fun c =>
    { c with position := range.start, stop := range.start + range.size, inBody := true }
  let (body, _) ← (CheckBody.body ctx range.type).run (.opened (.func range.type))
  return body

end Rerun.Wasm
