/-! What can be set about a session. -/

namespace Rerun

/-- Which completed cycles may report. -/
inductive ReportPolicy
  /-- Every one: the last to finish wins. -/
  | lastCompleted
  /-- None that is older than one already reported. -/
  | latestStarted
deriving DecidableEq, Repr

def ReportPolicy.name : ReportPolicy → String
  | lastCompleted => "last_completed"
  | latestStarted => "latest_started"

structure ParseOptions where
  /-- Whether a binary is validated after it is encoded. -/
  validate : Bool := true
deriving DecidableEq, Repr

def defaultErrorPrefix : String := "⚠️ Error running program: "

structure Settings where
  moduleName : String := ""
  frameIntervalMs : Nat := 16
  reportPolicy : ReportPolicy := .lastCompleted
  errorPrefix : String := defaultErrorPrefix
  validate : Bool := true
  /-- Units of work between two yields of a running program; zero turns metering
  off. -/
  fuelYieldInterval : Nat := 10000
deriving DecidableEq, Repr

namespace Settings

/-- Milliseconds between two frames, never zero. -/
def frameInterval (s : Settings) : Nat := max s.frameIntervalMs 1

def parseOptions (s : Settings) : ParseOptions := ⟨s.validate⟩

def fuel? (s : Settings) : Option Nat :=
  if 0 < s.fuelYieldInterval then some s.fuelYieldInterval else none

end Settings

end Rerun
