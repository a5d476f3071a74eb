import Rerun.Baseline
import Rerun.Cycle.Phase
import Rerun.Screen
import Rerun.Stages

/-! A session: readings of a text are compared with the baseline, each change
starts a cycle, and cycles run, overlap and report.

A session moves by four steps, in any order: `detect` a reading, `begin` a detected
cycle, `resume` a suspended one, `discard` one that has not begun.  Its history is
kept in full: calls, completions, deliveries, pauses, records. -/

namespace Rerun

structure Cycle where
  id : CycleId
  text : String
  phase : Phase
deriving DecidableEq, Repr

structure Stats where
  cyclesStarted : Nat := 0
  assemblies : Nat := 0
  executions : Nat := 0
  reports : Nat := 0
  droppedReports : Nat := 0
deriving DecidableEq, Repr

/-- Where a cycle stands inside the sandbox. -/
inductive Standing (Instance : Type)
  | instantiating (size : Nat) (rest : Pausing (Except Diagnostic Instance))
  | calling (rest : Pausing (Except Diagnostic Value))

/-- The pauses a cycle still goes through, the one it waits at included. -/
def Standing.pauses {Instance : Type} (sandbox : Sandbox Instance) : Standing Instance → Nat
  | instantiating _ rest =>
      match rest.result with
      | .error _ => rest.pauses + 1
      | .ok program => rest.pauses + 1 + (sandbox.callMain program).pauses
  | calling rest => rest.pauses + 1

/-- The parties and settings of a session. -/
structure Setup (Handle Instance : Type) where
  assembler : Assembler Handle
  sandbox : Sandbox Instance
  settings : Settings

structure Session (Instance : Type) where
  baseline : Baseline := {}
  nextCycle : CycleId := 0
  /-- Detected cycles that have not begun. -/
  detected : List Cycle := []
  suspended : List (Cycle × Standing Instance) := []
  stats : Stats := {}
  lastReported : Option CycleId := none
  calls : List Call := []
  discarded : List CycleId := []
  /-- Cycles in the order of their pauses. -/
  pauses : List CycleId := []
  completed : List (CycleId × Outcome) := []
  delivered : List (CycleId × Outcome) := []
  log : List LogRecord := []

namespace Session

variable {Handle Instance : Type}

def note (s : Session Instance) (level : LogLevel) (text : String) : Session Instance :=
  { s with log := s.log ++ [⟨level, text⟩] }

/-- Moves a cycle to its next phase. -/
def advance (s : Session Instance) (c : Cycle) (next : Phase) :
    Cycle × Session Instance :=
  ({ c with phase := next },
    s.note .trace s!"Cycle {c.id.shown}: {c.phase.name} -> {next.name}")

/-- A reading that differs from the baseline becomes a cycle; no reading changes
nothing. -/
def detect (s : Session Instance) (reading : Option String) :
    Option Cycle × Session Instance :=
  match reading with
  | none => (none, s)
  | some text =>
      match s.baseline.observe text with
      | (false, _) => (none, s)
      | (true, baseline) =>
          let id := s.nextCycle
          let s :=
            { s with
              baseline
              nextCycle := id + 1
              stats := { s.stats with cyclesStarted := s.stats.cyclesStarted + 1 } }
          let s := s.note .debug
            s!"Cycle {id.shown}: source changed ({text.utf8ByteSize} bytes)"
          let (cycle, s) := s.advance ⟨id, text, .detecting⟩ .assembling
          (some cycle, { s with detected := s.detected ++ [cycle] })

/-- Whether the policy holds back the report of a cycle. -/
def isStale (policy : ReportPolicy) (lastReported : Option CycleId) (id : CycleId) : Bool :=
  policy = .latestStarted && lastReported.any (id < ·)

def report (settings : Settings) (s : Session Instance) (id : CycleId)
    (outcome : Outcome) : Session Instance :=
  if isStale settings.reportPolicy s.lastReported id then
    let s :=
      { s with stats := { s.stats with droppedReports := s.stats.droppedReports + 1 } }
    s.note .debug s!"Cycle {id.shown}: dropping stale report"
  else
    let s :=
      match outcome with
      | .ok value => s.note .info s!"Cycle {id.shown}: main returned {value.shown}"
      | .error failure => s.note .warn s!"Cycle {id.shown}: {failure.shown}"
    { s with
      delivered := s.delivered ++ [(id, outcome)]
      lastReported := some (s.lastReported.elim id (max id))
      stats := { s.stats with reports := s.stats.reports + 1 } }

/-- Ends a cycle: it is reported, or dropped as stale, and goes idle. -/
def finish (settings : Settings) (s : Session Instance) (c : Cycle)
    (outcome : Outcome) : Session Instance :=
  let (c, s) := s.advance c (.reported outcome.isOk)
  let s := s.report settings c.id outcome
  let (c, s) := s.advance c .idle
  { s with completed := s.completed ++ [(c.id, outcome)] }

def suspend (s : Session Instance) (c : Cycle) (standing : Standing Instance) :
    Session Instance :=
  { s with
    suspended := s.suspended ++ [(c, standing)]
    pauses := s.pauses ++ [c.id] }

def proceedCall (setup : Setup Handle Instance) (s : Session Instance) (c : Cycle) :
    Pausing (Except Diagnostic Value) → Session Instance
  | .paused rest => s.suspend c (.calling rest)
  | .done (.error d) => s.finish setup.settings c (.error ⟨.runtime, d⟩)
  | .done (.ok value) => s.finish setup.settings c (.ok value)

def proceedInstantiation (setup : Setup Handle Instance) (s : Session Instance)
    (c : Cycle) (size : Nat) : Pausing (Except Diagnostic Instance) → Session Instance
  | .paused rest => s.suspend c (.instantiating size rest)
  | .done (.error d) => s.finish setup.settings c (.error ⟨.instantiation, d⟩)
  | .done (.ok program) =>
      let s := s.note .debug (instantiatedText size)
      let s := { s with calls := s.calls ++ [Call.callMain c.id] }
      s.proceedCall setup c (setup.sandbox.callMain program)

/-- Carries a cycle on to its next pause or its end. -/
def proceed (setup : Setup Handle Instance) (s : Session Instance) (c : Cycle) :
    Standing Instance → Session Instance
  | .instantiating size rest => s.proceedInstantiation setup c size rest
  | .calling rest => s.proceedCall setup c rest

/-- Handles created so far. -/
def created (s : Session Instance) : Nat := s.calls.countP Call.isCreation

def destroyed (s : Session Instance) : Nat := s.calls.countP Call.isDestruction

def mainCalls (s : Session Instance) : Nat := s.calls.countP Call.isMain

/-- Assembles a cycle that is in no list and runs it to its first pause or its
end. -/
def launch (setup : Setup Handle Instance) (s : Session Instance) (c : Cycle) :
    Session Instance :=
  let s := { s with stats := { s.stats with assemblies := s.stats.assemblies + 1 } }
  let assembly := setup.assembler.assemble setup.settings s.created c.text
  let s := { s with calls := s.calls ++ assembly.calls, log := s.log ++ assembly.log }
  match assembly.binary with
  | .error d =>
      let (c, s) := s.advance c .failed
      s.finish setup.settings c (.error ⟨.assembly, d⟩)
  | .ok binary =>
      let (c, s) := s.advance c .executing
      let s :=
        { s with
          stats := { s.stats with executions := s.stats.executions + 1 }
          calls := s.calls ++ [Call.instantiate c.id binary] }
      s.proceedInstantiation setup c binary.size (setup.sandbox.instantiate binary)

/-- Nothing happens where no such cycle waits to begin. -/
def begin (setup : Setup Handle Instance) (s : Session Instance) (id : CycleId) :
    Session Instance :=
  match s.detected.find? (·.id == id) with
  | none => s
  | some c =>
      { s with detected := s.detected.filter (·.id != id) }.launch setup c

/-- Goes through the pause a cycle waits at. -/
def resume (setup : Setup Handle Instance) (s : Session Instance) (id : CycleId) :
    Session Instance :=
  match s.suspended.find? (·.1.id == id) with
  | none => s
  | some (c, standing) =>
      { s with suspended := s.suspended.filter (·.1.id != id) }.proceed setup c standing

/-- Throws away a cycle that has not begun. -/
def discard (s : Session Instance) (id : CycleId) : Bool × Session Instance :=
  match s.detected.find? (·.id == id) with
  | none => (false, s)
  | some _ =>
      (true,
        { s with
          detected := s.detected.filter (·.id != id)
          discarded := s.discarded ++ [id] })

/-- Begins every detected cycle, the oldest first. -/
def beginAll (setup : Setup Handle Instance) (s : Session Instance) : Session Instance :=
  (s.detected.map (·.id)).foldl (fun s id => s.begin setup id) s

/-- Lets suspended cycles go on a number of times, always the one that has waited
longest. -/
def goOn (setup : Setup Handle Instance) (s : Session Instance) : Nat → Session Instance
  | 0 => s
  | turns + 1 =>
      match s.suspended with
      | [] => s
      | (c, _) :: _ => (s.resume setup c.id).goOn setup turns

def pausesLeft (sandbox : Sandbox Instance) : List (Cycle × Standing Instance) → Nat
  | [] => 0
  | (_, standing) :: rest => standing.pauses sandbox + pausesLeft sandbox rest

/-- Runs the pool until no cycle can go on, where each waits for its turn only. -/
def drain (setup : Setup Handle Instance) (s : Session Instance) : Session Instance :=
  let s := s.beginAll setup
  s.goOn setup (pausesLeft setup.sandbox s.suspended)

/-- Takes a reading, and carries what it starts to its end. -/
def serve (setup : Setup Handle Instance) (s : Session Instance) (reading : Option String) :
    Session Instance :=
  (s.detect reading).2.drain setup

/-- The cycle that still waits at pause number `index`. -/
def heldAt (s : Session Instance) (index : Nat) : Option CycleId :=
  match s.pauses[index]? with
  | none => none
  | some id =>
      if s.suspended.any (·.1.id == id) && !(s.pauses.drop (index + 1)).contains id then some id
      else none

def screen (s : Session Instance) (errorPrefix : String) : Screen :=
  Screen.showing errorPrefix s.delivered

def outcome? (s : Session Instance) (id : CycleId) : Option Outcome :=
  (s.completed.find? (·.1 == id)).map (·.2)

end Session

end Rerun
