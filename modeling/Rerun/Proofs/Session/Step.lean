import Rerun.Session

/-! Steps of a session, and the runs they make up.  A run takes steps in any order; a
step on a cycle that is not there changes nothing. -/

namespace Rerun

inductive Step
  | detect (reading : Option String)
  | begin (id : CycleId)
  | resume (id : CycleId)
  | discard (id : CycleId)
deriving DecidableEq, Repr

namespace Step

def target? : Step → Option CycleId
  | detect _ => none
  | begin id | resume id | discard id => some id

def text? : Step → Option String
  | detect reading => reading
  | _ => none

end Step

/-- A step together with the parties that answer while it is taken.  They need not be
the same at every step: a party may answer each time anew. -/
structure Move (Handle Instance : Type) where
  assembler : Assembler Handle
  sandbox : Sandbox Instance
  step : Step

variable {Handle Instance : Type}

namespace Session

def step (setup : Setup Handle Instance) (s : Session Instance) : Step → Session Instance
  | .detect reading => (s.detect reading).2
  | .begin id => s.begin setup id
  | .resume id => s.resume setup id
  | .discard id => (s.discard id).2

def move (settings : Settings) (s : Session Instance) (m : Move Handle Instance) :
    Session Instance :=
  s.step ⟨m.assembler, m.sandbox, settings⟩ m.step

/-- A run in which the parties may change from step to step. -/
def play (settings : Settings) (moves : List (Move Handle Instance)) : Session Instance :=
  moves.foldl (move settings) {}

def run (setup : Setup Handle Instance) (steps : List Step) : Session Instance :=
  steps.foldl (step setup) {}

@[simp] theorem play_nil (settings : Settings) :
    play settings ([] : List (Move Handle Instance)) = {} := rfl

@[simp] theorem play_concat (settings : Settings) (moves : List (Move Handle Instance))
    (m : Move Handle Instance) :
    play settings (moves ++ [m]) = (play settings moves).move settings m := by
  simp [play]

@[simp] theorem run_nil (setup : Setup Handle Instance) : run setup [] = {} := rfl

@[simp] theorem run_concat (setup : Setup Handle Instance) (steps : List Step) (step : Step) :
    run setup (steps ++ [step]) = (run setup steps).step setup step := by
  simp [run]

end Session

def Setup.moves (setup : Setup Handle Instance) (steps : List Step) :
    List (Move Handle Instance) :=
  steps.map (Move.mk setup.assembler setup.sandbox)

theorem Setup.moves_append (setup : Setup Handle Instance) (first second : List Step) :
    setup.moves (first ++ second) = setup.moves first ++ setup.moves second :=
  List.map_append

/-- A computation that pauses a number of times. -/
def Pausing.after {α : Type} (result : α) : Nat → Pausing α
  | 0 => done result
  | pauses + 1 => paused (after result pauses)

/-- Parties that take any text for a program, which pauses once for each of its bytes
and returns nothing. -/
def Setup.leisurely (policy : ReportPolicy) : Setup String Unit where
  assembler := ⟨fun _ text _ => .ok text, fun text => .ok text.toUTF8⟩
  sandbox := ⟨fun binary => .after (.ok ()) binary.size, fun _ => .done (.ok .void)⟩
  settings := { reportPolicy := policy }

theorem Session.play_moves (setup : Setup Handle Instance) (steps : List Step) :
    play setup.settings (setup.moves steps) = run setup steps := by
  simp only [play, Setup.moves, List.foldl_map]
  rfl

end Rerun
