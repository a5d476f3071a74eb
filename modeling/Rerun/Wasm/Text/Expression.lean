import Rerun.Wasm.Text.Instruction

/-! Sequences of instructions, folded or not.  A folded instruction comes after its
operands; what is open is kept on a stack, so that nesting costs no recursion. -/

namespace Rerun.Wasm.Text.Parse

/-- How much of a folded `if` has been read. -/
inductive Arms
  | condition (cond : TextInstr)
  | taken
  | both

/-- What a closing parenthesis ends. -/
inductive Level
  | closing (last : TextInstr)
  | cond (arms : Arms)
  | arm
  | hint

structure Folding where
  stack : List Level := []
  /-- The last instruction first. -/
  output : List TextInstr := []
  hint : Option Nat := none

namespace Folding

def push (f : Folding) (i : TextInstr) : Folding :=
  { f with output := { i with hint := f.hint } :: f.output, hint := none }

def nest (f : Folding) (level : Level) : Folding := { f with stack := level :: f.stack }

end Folding

def plainInstr (name : String) : TextInstr :=
  { operation := (Operation.ofName? name).getD ⟨name, none, 0, .nop⟩ }

def branchHint : Parse Nat := do
  skip
  match ← bytes with
  | [0] => return 0
  | [1] => return 1
  | _ => fail "invalid value for branch hint"

/-- After an opening parenthesis that begins no arm of an `if`. -/
def openFolded (f : Folding) : Parse Folding := do
  if ← atAnnotation "metadata.code.branch_hint" then
    let hint ← branchHint
    return { f with hint := some hint }.nest .hint
  let i ← instruction
  match i.operation.op with
  | .block | .loop | .tryTable => return (f.push i).nest (.closing (plainInstr "end"))
  | .cond => return f.nest (.cond (.condition i))
  | _ => return f.nest (.closing i)

def openLevel (f : Folding) : Parse Folding := do
  match f.stack with
  | .cond (.condition cond) :: rest =>
      if ← tryKeyword "then" then
        return ({ f with stack := .cond .taken :: rest }.push cond).nest .arm
      else openFolded f
  | .cond .taken :: rest =>
      keyword "else"
      return ({ f with stack := .cond .both :: rest }.push (plainInstr "else")).nest .arm
  | .cond .both :: _ => fail "unexpected token: too many payloads inside of `(if)`"
  | _ => openFolded f

def closeLevel (f : Folding) (level : Level) : Parse Folding := do
  match level with
  | .closing last => return f.push last
  | .arm | .hint => return f
  | .cond (.condition _) => fail "previous `if` had no `then`"
  | .cond _ => return f.push (plainInstr "end")

def foldingStep (f : Folding) : Parse Folding := do
  if f.stack.head? matches some (.cond _) then
    if !(← atEnd) && !(← atOpening) then fail ("expected " ++ quoted "(")
  match (← head).kind, f.stack with
  | .opening, _ => skip; openLevel f
  | .closing, level :: rest => skip; closeLevel { f with stack := rest } level
  | _, _ => return f.push (← instruction)

def foldingFrom : Nat → Folding → Parse Folding
  | 0, f => return f
  | fuel + 1, f => do
      if f.stack.isEmpty && (← atEnd) then return f
      else foldingFrom fuel (← foldingStep f)

/-- Instructions up to the closing parenthesis. -/
def expression : Parse Expression := fun tokens =>
  (do
    let f ← foldingFrom (tokens.length + 1) {}
    return f.output.reverse) tokens

def foldedFrom : Nat → List TextInstr → List TextInstr → Parse Expression
  | 0, _, output => return output.reverse
  | fuel + 1, stack, output => do
      match (← head).kind, stack with
      | .opening, _ =>
          skip
          foldedFrom fuel ((← instruction) :: stack) output
      | .closing, last :: rest =>
          skip
          if rest.isEmpty then return (last :: output).reverse
          else foldedFrom fuel rest (last :: output)
      | _, _ => fail "expected to continue a folded instruction"

/-- One folded instruction with its operands, all of them folded. -/
def foldedInstruction : Parse Expression := fun tokens =>
  foldedFrom (tokens.length + 1) [] [] tokens

/-- The place a segment is copied to. -/
def segmentOffset : Parse Expression := do
  if ← secondIsKeyword "offset" then
    parens do
      keyword "offset"
      expression
  else foldedInstruction

end Rerun.Wasm.Text.Parse
