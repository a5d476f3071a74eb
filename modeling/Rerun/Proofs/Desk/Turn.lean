import Rerun.Proofs.Desk.Run
import Rerun.Proofs.Session.Backstage

/-! Turns: actions at a desk, and steps of its session taken past the loop, in any order.
A desk is its front, which no cycle has a part in, and its session. -/

namespace Rerun

variable {Handle Instance : Type}

namespace Desk

inductive Deed
  | act (action : Action)
  | step (step : Step)
deriving DecidableEq, Repr

/-- A deed together with the parties that answer while it is done. -/
structure Turn (Handle Instance : Type) where
  assembler : Assembler Handle
  sandbox : Sandbox Instance
  deed : Deed

def Turn.setup (settings : Settings) (t : Turn Handle Instance) : Setup Handle Instance :=
  ⟨t.assembler, t.sandbox, settings⟩

def turn (settings : Settings) (d : Desk Instance) (t : Turn Handle Instance) :
    Desk Instance :=
  match t.deed with
  | .act a => d.act (t.setup settings) a
  | .step step =>
      { d with ticker.session := d.ticker.session.step (t.setup settings) step }

def play (settings : Settings) (board : Board) (turns : List (Turn Handle Instance)) :
    Desk Instance :=
  turns.foldl (turn settings) { board }

/-- The moves of the session that a turn comes down to. -/
def moves (settings : Settings) (d : Desk Instance) (t : Turn Handle Instance) :
    List (Move Handle Instance) :=
  match t.deed with
  | .act a => (t.setup settings).moves (d.steps (t.setup settings) a)
  | .step step => (t.setup settings).moves [step]

def record (settings : Settings) :
    Desk Instance → List (Turn Handle Instance) → List (Move Handle Instance)
  | _, [] => []
  | d, t :: rest => d.moves settings t ++ record settings (d.turn settings t) rest

theorem foldl_moves (setup : Setup Handle Instance) (s : Session Instance)
    (steps : List Step) :
    (setup.moves steps).foldl (Session.move setup.settings) s =
      steps.foldl (Session.step setup) s := by
  rw [Setup.moves, List.foldl_map]
  rfl

theorem turn_session (settings : Settings) (d : Desk Instance) (t : Turn Handle Instance) :
    (d.turn settings t).ticker.session =
      (d.moves settings t).foldl (Session.move settings) d.ticker.session := by
  simp only [turn, moves]
  cases t.deed with
  | act a =>
      have session := act_session (t.setup settings) d a
      rw [← foldl_moves] at session
      exact session
  | step step => rfl

theorem foldl_turn_session (settings : Settings) (d : Desk Instance)
    (turns : List (Turn Handle Instance)) :
    (turns.foldl (turn settings) d).ticker.session =
      (d.record settings turns).foldl (Session.move settings) d.ticker.session := by
  induction turns generalizing d with
  | nil => rfl
  | cons t rest ih => rw [List.foldl_cons, ih, record, List.foldl_append, turn_session]

theorem play_session (settings : Settings) (board : Board)
    (turns : List (Turn Handle Instance)) :
    (play settings board turns).ticker.session =
      Session.play settings (record settings { board } turns) :=
  foldl_turn_session settings { board } turns

/-- The turns of a run of actions alone, in which the parties stay the same. -/
def turns (setup : Setup Handle Instance) (actions : List Action) :
    List (Turn Handle Instance) :=
  actions.map fun a => ⟨setup.assembler, setup.sandbox, .act a⟩

theorem play_turns (setup : Setup Handle Instance) (board : Board) (actions : List Action) :
    play setup.settings board (turns setup actions) = run setup board actions := by
  rw [play, turns, List.foldl_map]
  rfl

/-- A desk without its session. -/
def front (d : Desk Instance) : Desk Instance := { d with ticker.session := {} }

section Front

variable {d e : Desk Instance}

theorem front_congr (same : d.front = e.front) :
    d.board = e.board ∧ d.ticker.frames = e.ticker.frames ∧
      d.ticker.ticks = e.ticker.ticks := by
  simp only [front, mk.injEq, Ticker.mk.injEq] at same
  exact ⟨same.1, same.2.2⟩

theorem release_front (setup : Setup Handle Instance) (d : Desk Instance) (index : Nat) :
    (d.act setup (.release index)).front = d.front := by
  simp only [act, Ticker.release]
  cases d.ticker.session.heldAt index <;> rfl

theorem release_steps (setup : Setup Handle Instance) (d : Desk Instance) (index : Nat) :
    d.steps setup (.release index) =
      (d.ticker.session.heldAt index).toList.map .resume ++ begins d.ticker.session := by
  simp only [steps]
  cases d.ticker.session.heldAt index with
  | none => rfl
  | some id => simp [begins, Session.resume_detected]

/-- What an action does to the front has nothing to do with the session. -/
theorem act_front_congr (same : d.front = e.front) (setup other : Setup Handle Instance)
    (a : Action) : (d.act setup a).front = (e.act other a).front := by
  obtain ⟨board, frames, ticks⟩ := front_congr same
  cases a with
  | fire =>
      cases armed : e.ticker.frames.pending <;>
        simp [act, front, Ticker.fire, FrameSlot.fire, Ticker.work, board, frames, armed,
          ticks]
  | release index => rw [release_front, release_front, same]
  | _ =>
      simp [act, front, Ticker.start, Ticker.tick, Ticker.work, Ticker.run, board, frames,
        ticks]

theorem turn_front_congr (same : d.front = e.front) (settings other : Settings)
    (t : Turn Handle Instance) : (d.turn settings t).front = (e.turn other t).front := by
  simp only [turn]
  cases t.deed with
  | act a => exact act_front_congr same _ _ a
  | step step => exact same

/-- The steps an action comes down to: what it reads, which cycles wait, and the cycle held
at a pause. -/
theorem steps_congr (same : d.front = e.front)
    (detected : d.ticker.session.detected = e.ticker.session.detected)
    (setup other : Setup Handle Instance) (a : Action)
    (held : ∀ index, a = .release index →
      d.ticker.session.heldAt index = e.ticker.session.heldAt index) :
    d.steps setup a = e.steps other a := by
  obtain ⟨board, frames, -⟩ := front_congr same
  cases a with
  | release index =>
      rw [release_steps, release_steps, held index rfl, begins, begins, detected]
  | _ => simp [steps, begins, board, frames, detected]

end Front

end Desk

end Rerun
