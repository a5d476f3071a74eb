import Rerun.Stages

/-! A small stand-in language for rehearsing a session without an engine.  A text
is its own binary, and words at its front make it fail or pause. -/

namespace Rerun.Rehearsal

/-- The number written by the digits that follow `bad@`, zero if none do. -/
def offsetAfter (rest : String) : Nat :=
  (Digits.read? 10 (rest.toList.takeWhile Digits.isDecimal)).getD 0

def parse (text : String) : Except Diagnostic String :=
  if text = "bad" then .error (.located "unexpected token" text 0)
  else if text.startsWith "bad@" then
    .error (.located "unexpected token" text (offsetAfter (text.drop 4).copy))
  else .ok text

def encode (text : String) : Except Diagnostic ByteArray :=
  if text = "unencodable" then .error (.plain "cannot encode") else .ok text.toUTF8

def assembler : Assembler String where
  parse _ text _ := parse text
  encode := encode

/-- A signed decimal in the range of 32-bit integers. -/
def readInt32? (text : String) : Option Int32 :=
  let (negative, digits) :=
    match text.toList with
    | '-' :: rest => (true, rest)
    | '+' :: rest => (false, rest)
    | chars => (false, chars)
  match Digits.read? 10 digits with
  | none => none
  | some n =>
      if negative then (if n ≤ Nat.pow 2 31 then some (Int32.ofInt (-n)) else none)
      else if n < Nat.pow 2 31 then some (Int32.ofInt n) else none

def value (program : String) : Except Diagnostic Value :=
  if program = "trap" then .error (.plain "wasm trap: integer divide by zero")
  else if program = "void" then .ok .void
  else if program = "pair" then
    .ok (.multiple [.i32 1, .f64 (FloatFormat.double.round false 1 2).toUInt64])
  else
    let number := if program.startsWith "ok:" then readInt32? (program.drop 3).copy else none
    match number with
    | some n => .ok (.i32 n)
    | none => .error (.plain s!"unknown program {program}")

/-- The text without the word, behind a pause, if it begins with the word. -/
def pauseAt {α : Type} (word text : String) (next : String → α) : Pausing α :=
  if text.startsWith word then .paused (.done (next (text.drop word.length).copy))
  else .done (next text)

def sandbox : Sandbox String where
  instantiate binary :=
    pauseAt "slow:" ((String.fromUTF8? binary).getD "") fun program =>
      if program = "noinst" then
        .error (.plain "module does not export a `main` function")
      else .ok program
  callMain program := pauseAt "hang:" program value

end Rerun.Rehearsal
