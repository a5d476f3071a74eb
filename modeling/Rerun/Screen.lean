import Rerun.Outcome

/-! A surface that shows the latest report. -/

namespace Rerun

structure Screen where
  errorPrefix : String
  content : Rendered := ⟨"", false⟩
  /-- Reports written so far. -/
  writes : Nat := 0
deriving DecidableEq, Repr

namespace Screen

def report (s : Screen) (outcome : Outcome) : Screen :=
  { s with content := outcome.render s.errorPrefix, writes := s.writes + 1 }

/-- The screen after a sequence of reports on a blank one. -/
def showing (errorPrefix : String) (reports : List (CycleId × Outcome)) : Screen :=
  reports.foldl (fun s r => s.report r.2) { errorPrefix }

end Screen

/-- A text that is changed by one party and read by another. -/
structure Board where
  text : String := ""
  readable : Bool := true
deriving DecidableEq, Repr

namespace Board

def write (_ : Board) (text : String) : Board := ⟨text, true⟩

def hide (b : Board) : Board := { b with readable := false }

def read (b : Board) : Option String := if b.readable then some b.text else none

end Board

end Rerun
