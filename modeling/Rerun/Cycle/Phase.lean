/-! The phases of a cycle, and which may follow which. -/

namespace Rerun

inductive Phase
  | idle
  | detecting
  | assembling
  | executing
  /-- The text could not be assembled. -/
  | failed
  | reported (success : Bool)
deriving DecidableEq, Repr

namespace Phase

def canAdvanceTo : Phase → Phase → Bool
  | idle, detecting => true
  | detecting, idle => true
  | detecting, assembling => true
  | assembling, executing => true
  | assembling, failed => true
  | executing, reported _ => true
  | failed, reported success => !success
  | reported _, idle => true
  | _, _ => false

def name : Phase → String
  | idle => "Idle"
  | detecting => "Detecting"
  | assembling => "Assembling"
  | executing => "Executing"
  | failed => "Failed"
  | reported success => s!"Reported \x7b success: {success} \x7d"

end Phase

end Rerun
