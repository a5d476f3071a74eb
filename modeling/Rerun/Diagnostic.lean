import Rerun.Text.Position

/-! Failure descriptions that may point into the text they are about. -/

namespace Rerun

structure Diagnostic where
  message : String
  place : Option Position
deriving DecidableEq, Repr

namespace Diagnostic

/-- A description of no particular place. -/
def plain (message : String) : Diagnostic := ⟨message, none⟩

def located (message text : String) (offset : Nat) : Diagnostic :=
  ⟨message, some (Position.resolve text offset)⟩

def shown (d : Diagnostic) : String :=
  match d.place with
  | none => d.message
  | some p => s!"{d.message} (at {p.line}:{p.column})"

end Diagnostic

end Rerun
