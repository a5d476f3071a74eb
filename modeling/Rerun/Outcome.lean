import Rerun.Diagnostic
import Rerun.Text.Quoted
import Rerun.Value

/-! How a cycle ends: the entry point's value, or the stage that failed and why. -/

namespace Rerun

inductive Stage
  | assembly
  | instantiation
  | runtime
deriving DecidableEq, Repr

def Stage.name : Stage → String
  | assembly => "assembly"
  | instantiation => "instantiation"
  | runtime => "runtime"

structure Failure where
  stage : Stage
  diagnostic : Diagnostic
deriving DecidableEq, Repr

def Failure.shown (f : Failure) : String :=
  s!"{f.stage.name} error: {f.diagnostic.shown}"

abbrev Outcome := Except Failure Value

/-- Identifies a cycle; cycles are numbered in the order of detection. -/
abbrev CycleId := Nat

def CycleId.shown (id : CycleId) : String := s!"#{id}"

structure Rendered where
  text : String
  isError : Bool
deriving DecidableEq, Repr

namespace Outcome

def isOk : Outcome → Bool
  | .ok _ => true
  | .error _ => false

def same : Outcome → Outcome → Bool
  | .ok a, .ok b => a.same b
  | .error a, .error b => a == b
  | _, _ => false

/-- A value is shown bare, a failure after the prefix. -/
def render (outcome : Outcome) (errorPrefix : String) : Rendered :=
  match outcome with
  | .ok value => ⟨value.shown, false⟩
  | .error failure => ⟨errorPrefix ++ failure.shown, true⟩

/-- One JSON object on one line, its keys in alphabetical order. -/
def line (cycle : CycleId) (outcome : Outcome) : String :=
  match outcome with
  | .ok value =>
      Json.object
        [("cycle", toString cycle), ("result", Json.string value.shown),
          ("status", Json.string "ok")]
  | .error failure =>
      Json.object
        [("cycle", toString cycle), ("error", Json.string failure.diagnostic.shown),
          ("kind", Json.string failure.stage.name), ("status", Json.string "error")]

end Outcome

end Rerun
