import Rerun.Proofs.Session.Detection
import Rerun.Ticker

/-! A desk: the board that a text is written on, and the frame loop that watches it.
Whatever is done at a desk comes down to steps of its session. -/

namespace Rerun

variable {Handle Instance : Type}

structure Desk (Instance : Type) where
  board : Board := {}
  ticker : Ticker Instance := {}

namespace Desk

/-- What can be done at a desk.  The pool is run as a whole, or takes up one cycle, in
whichever order. -/
inductive Action
  | start
  | write (text : String)
  | hide
  | fire
  | tick
  | run
  | release (index : Nat)
  | begin (id : CycleId)
  | resume (id : CycleId)
deriving DecidableEq, Repr

def act (setup : Setup Handle Instance) (d : Desk Instance) : Action → Desk Instance
  | .start => { d with ticker := d.ticker.start }
  | .write text => { d with board := d.board.write text }
  | .hide => { d with board := d.board.hide }
  | .fire => { d with ticker := (d.ticker.fire d.board.read).2 }
  | .tick => { d with ticker := d.ticker.tick d.board.read }
  | .run => { d with ticker := d.ticker.run setup }
  | .release index => { d with ticker := (d.ticker.release setup index).2 }
  | .begin id => { d with ticker.session := d.ticker.session.begin setup id }
  | .resume id => { d with ticker.session := d.ticker.session.resume setup id }

def run (setup : Setup Handle Instance) (board : Board) (actions : List Action) :
    Desk Instance :=
  actions.foldl (act setup) { board }

/-- What an action reads from the board, if it reads it and the board can be read. -/
def reading? (d : Desk Instance) : Action → Option String
  | .fire => if d.ticker.frames.isArmed then d.board.read else none
  | .tick => d.board.read
  | _ => none

def begins (s : Session Instance) : List Step := s.detected.map (.begin ·.id)

/-- The steps of the session that an action comes down to. -/
def steps (setup : Setup Handle Instance) (d : Desk Instance) : Action → List Step
  | .fire => if d.ticker.frames.isArmed then [.detect d.board.read] else []
  | .tick => [.detect d.board.read]
  | .run => begins d.ticker.session
  | .release index =>
      match d.ticker.session.heldAt index with
      | none => begins d.ticker.session
      | some id => .resume id :: begins (d.ticker.session.resume setup id)
  | .begin id => [.begin id]
  | .resume id => [.resume id]
  | _ => []

def trace (setup : Setup Handle Instance) : Desk Instance → List Action → List Step
  | _, [] => []
  | d, a :: rest => d.steps setup a ++ trace setup (d.act setup a) rest

theorem beginAll_eq (setup : Setup Handle Instance) (s : Session Instance) :
    s.beginAll setup = (begins s).foldl (Session.step setup) s := by
  rw [Session.beginAll, begins, List.foldl_map, List.foldl_map]
  rfl

theorem act_session (setup : Setup Handle Instance) (d : Desk Instance) (a : Action) :
    (d.act setup a).ticker.session =
      (d.steps setup a).foldl (Session.step setup) d.ticker.session := by
  cases a with
  | fire =>
      cases armed : d.ticker.frames.pending <;>
        simp [act, steps, Ticker.fire, FrameSlot.fire, FrameSlot.isArmed, armed, Ticker.work,
          Session.step]
  | run => exact beginAll_eq setup d.ticker.session
  | release index =>
      cases held : d.ticker.session.heldAt index with
      | none =>
          simp only [act, steps, Ticker.release, held]
          exact beginAll_eq setup d.ticker.session
      | some id =>
          simp only [act, steps, Ticker.release, held]
          exact beginAll_eq setup (d.ticker.session.resume setup id)
  | _ => rfl

theorem foldl_act_session (setup : Setup Handle Instance) (d : Desk Instance)
    (actions : List Action) :
    (actions.foldl (act setup) d).ticker.session =
      (d.trace setup actions).foldl (Session.step setup) d.ticker.session := by
  induction actions generalizing d with
  | nil => rfl
  | cons a rest ih => rw [List.foldl_cons, ih, trace, List.foldl_append, act_session]

/-- The session of a desk is a run of its own. -/
theorem run_session (setup : Setup Handle Instance) (board : Board) (actions : List Action) :
    (run setup board actions).ticker.session =
      Session.run setup (trace setup { board } actions) :=
  foldl_act_session setup { board } actions

/-- Nothing at a desk throws a cycle away. -/
theorem discard_not_mem_steps (setup : Setup Handle Instance) (d : Desk Instance) (a : Action)
    (id : CycleId) : .discard id ∉ d.steps setup a := by
  cases a with
  | fire => cases armed : d.ticker.frames.isArmed <;> simp [steps, armed]
  | release index =>
      cases held : d.ticker.session.heldAt index <;> simp [steps, begins, held]
  | _ => simp [steps, begins]

theorem discard_not_mem_trace (setup : Setup Handle Instance) (d : Desk Instance)
    (actions : List Action) (id : CycleId) : .discard id ∉ d.trace setup actions := by
  induction actions generalizing d with
  | nil => exact List.not_mem_nil
  | cons a rest ih =>
      rw [trace, List.mem_append, not_or]
      exact ⟨discard_not_mem_steps setup d a id, ih (d.act setup a)⟩

end Desk

end Rerun
