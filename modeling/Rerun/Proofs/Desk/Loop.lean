import Rerun.Proofs.Desk.Turn
import Rerun.Proofs.Frame.Loop

/-! The loop at a desk.  Its host is the board with the session, which reads the board once
when it is called; the cycle that it may detect is the task that is spawned. -/

namespace Rerun

variable {Handle Instance : Type}

def Step.reads : Step → Bool
  | detect _ => true
  | _ => false

theorem Session.creations_of_unread (setup : Setup Handle Instance) (s : Session Instance)
    {steps : List Step} (unread : ∀ step ∈ steps, step.reads = false) :
    creations setup.settings s (setup.moves steps) = [] := by
  induction steps generalizing s with
  | nil => rfl
  | cons step rest ih =>
      obtain ⟨now, later⟩ := List.forall_mem_cons.mp unread
      have nothing : s.created? step = none := by
        cases step with
        | detect reading => cases now
        | _ => rfl
      have none := ih (s.move setup.settings ⟨setup.assembler, setup.sandbox, step⟩) later
      simp only [Setup.moves, List.map_cons, creations, nothing, Option.toList_none,
        List.nil_append]
      exact none

namespace Desk

/-- What calls the host: a tick, or a fire of an armed frame. -/
def calls (d : Desk Instance) : Action → Bool
  | .fire => d.ticker.frames.isArmed
  | .tick => true
  | _ => false

theorem steps_of_calls (setup : Setup Handle Instance) (d : Desk Instance) {a : Action}
    (calls : d.calls a) : d.steps setup a = [.detect d.board.read] := by
  cases a with
  | fire => exact if_pos calls
  | tick => rfl
  | _ => cases calls

theorem begins_unread (s : Session Instance) : ∀ step ∈ begins s, step.reads = false := by
  intro step member
  obtain ⟨c, -, rfl⟩ := List.mem_map.mp member
  rfl

theorem steps_unread (setup : Setup Handle Instance) (d : Desk Instance) {a : Action}
    (quiet : d.calls a = false) : ∀ step ∈ d.steps setup a, step.reads = false := by
  intro step member
  cases a with
  | fire =>
      have idle : d.steps setup .fire = [] := if_neg (by simpa [calls] using quiet)
      rw [idle] at member
      cases member
  | tick => cases quiet
  | run => exact begins_unread _ step member
  | release index =>
      rw [release_steps, List.mem_append] at member
      rcases member with resumed | begun
      · obtain ⟨id, -, rfl⟩ := List.mem_map.mp resumed
        rfl
      · exact begins_unread _ step begun
  | begin id | resume id =>
      obtain rfl := List.mem_singleton.mp member
      rfl
  | start | write text | hide => cases member

def watch : Watch (Board × Session Instance) Cycle := fun _ (board, session) =>
  let (cycle?, session) := session.detect board.read
  (cycle?, board, session)

/-- The loop has no part in an action other than these three. -/
def event (setup : Setup Handle Instance) : Action → Loop.Event (Board × Session Instance)
  | .start => .start
  | .fire => .fire
  | .tick => .tick
  | a => .shift fun (board, session) =>
      let d := act setup { board, ticker := { session } } a
      (d.board, d.ticker.session)

end Desk

namespace Loop

def desk (l : Loop (Board × Session Instance) Cycle) : Desk Instance where
  board := l.host.1
  ticker := { session := l.host.2, frames := l.frames, ticks := l.ticks }

variable (setup : Setup Handle Instance) (l : Loop (Board × Session Instance) Cycle)

theorem fire_desk : (l.fire Desk.watch).2.desk = (l.desk.act setup .fire) ∧
    (l.fire Desk.watch).1 = (l.desk.ticker.fire l.desk.board.read).1 := by
  obtain ⟨host, ⟨pending⟩, ticks, spawned, visits⟩ := l
  cases pending <;> exact ⟨rfl, rfl⟩

theorem step_desk (a : Desk.Action) :
    (l.step Desk.watch (Desk.event setup a)).desk = l.desk.act setup a := by
  cases a with
  | fire => exact (l.fire_desk setup).1
  | release index =>
      simp only [step, Desk.event, desk, Desk.act, Ticker.release]
      cases l.host.2.heldAt index <;> rfl
  | _ => rfl

theorem foldl_step_desk (actions : List Desk.Action) :
    ((actions.map (Desk.event setup)).foldl (step Desk.watch) l).desk =
      actions.foldl (Desk.act setup) l.desk := by
  induction actions generalizing l with
  | nil => rfl
  | cons a rest ih => rw [List.map_cons, List.foldl_cons, ih, step_desk, List.foldl_cons]

theorem step_of_calls {a : Desk.Action} (calls : l.desk.calls a) :
    l.step Desk.watch (Desk.event setup a) = l.tick Desk.watch := by
  cases a with
  | fire =>
      rw [Desk.event, step, fire_eq]
      exact congrArg Prod.snd (if_pos calls)
  | tick => rfl
  | _ => cases calls

theorem step_of_quiet {a : Desk.Action} (quiet : l.desk.calls a = false) :
    (l.step Desk.watch (Desk.event setup a)).ticks = l.ticks ∧
    (l.step Desk.watch (Desk.event setup a)).spawned = l.spawned := by
  cases a with
  | fire =>
      have unarmed : l.frames.isArmed = false := quiet
      rw [Desk.event, step, fire_eq, unarmed]
      exact ⟨rfl, rfl⟩
  | tick => cases quiet
  | _ => exact ⟨rfl, rfl⟩

theorem step_reads (a : Desk.Action) :
    (l.step Desk.watch (Desk.event setup a)).ticks =
      l.ticks + (l.desk.steps setup a).countP Step.reads ∧
    (l.step Desk.watch (Desk.event setup a)).spawned =
      l.spawned ++ Session.creations setup.settings l.desk.ticker.session
        (setup.moves (l.desk.steps setup a)) := by
  cases calls : l.desk.calls a with
  | true =>
      rw [step_of_calls setup l calls, Desk.steps_of_calls setup l.desk calls]
      refine ⟨rfl, ?_⟩
      simp only [Setup.moves, List.map_singleton, Session.creations, List.append_nil]
      rfl
  | false =>
      have unread := Desk.steps_unread setup l.desk calls
      rw [Session.creations_of_unread setup _ unread, List.append_nil,
        List.countP_eq_zero.mpr fun step member => by simp [unread step member]]
      exact step_of_quiet setup l calls

theorem foldl_step_reads (actions : List Desk.Action) :
    let t := (actions.map (Desk.event setup)).foldl (step Desk.watch) l
    t.ticks = l.ticks + (l.desk.trace setup actions).countP Step.reads ∧
    t.spawned = l.spawned ++ Session.creations setup.settings l.desk.ticker.session
      (setup.moves (l.desk.trace setup actions)) := by
  induction actions generalizing l with
  | nil => exact ⟨rfl, (List.append_nil _).symm⟩
  | cons a rest ih =>
      obtain ⟨ticks, spawned⟩ := step_reads setup l a
      obtain ⟨laterTicks, laterSpawned⟩ := ih (l.step Desk.watch (Desk.event setup a))
      rw [ticks, step_desk] at laterTicks
      rw [spawned, step_desk, Desk.act_session] at laterSpawned
      constructor
      · rw [List.map_cons, List.foldl_cons, laterTicks, Desk.trace, List.countP_append,
          Nat.add_assoc]
      · rw [List.map_cons, List.foldl_cons, laterSpawned, Desk.trace, setup.moves_append,
          Session.creations_append, Desk.foldl_moves, List.append_assoc]

/-- From the first start or tick on, one frame is armed, also when the host is called, which
is once in a tick.  A fire tells whether a frame was armed; if one was, it is a tick.  At a
desk, a tick reads the board once, and what is spawned are the cycles detected. -/
theorem one_frame_stays_armed {Host Task : Type} (watch : Watch Host Task) (host : Host)
    (events : List (Event Host)) :
    let l := run watch host events
    l.frames.isArmed = events.any Event.arms ∧
    l.fire watch = (if l.frames.isArmed then (true, l.tick watch) else (false, l)) ∧
    l.ticks = (answers watch { host } events).count true + events.countP Event.isTick ∧
    l.visits.length = l.ticks ∧ (∀ visit ∈ l.visits, visit.found.isArmed) ∧
    l.spawned = l.visits.filterMap (·.task?) ∧
    (l.frames.isArmed → l.start = l) ∧
    ∀ {Handle Instance : Type} (setup : Setup Handle Instance) (board : Board)
        (actions : List Desk.Action),
      let t := run Desk.watch (board, {}) (actions.map (Desk.event setup))
      let d := Desk.run setup board actions
      let steps := Desk.trace setup { board } actions
      t.desk = d ∧ (d.ticker.fire d.board.read).1 = d.ticker.frames.isArmed ∧
      d.ticker.ticks = steps.countP Step.reads ∧
      t.spawned = Session.creations setup.settings {} (setup.moves steps) := by
  intro l
  have ticks : l.ticks = (answers watch { host } events).count true +
      events.countP Event.isTick := by
    have sum := foldl_ticks watch { host } events
    rw [Nat.zero_add] at sum
    exact sum
  have orderly : l.Orderly :=
    Orderly.foldl watch ⟨rfl, fun _ member => absurd member List.not_mem_nil, rfl⟩ events
  refine ⟨foldl_isArmed watch { host } events, fire_eq watch l, ticks, orderly.visited,
    orderly.armed, orderly.spawned, start_of_isArmed, ?_⟩
  intro Handle Instance setup board actions t d steps
  have isDesk : t.desk = d := foldl_step_desk setup { host := (board, {}) } actions
  obtain ⟨readings, spawned⟩ := foldl_step_reads setup { host := (board, {}) } actions
  refine ⟨isDesk, ?_, ?_, spawned⟩
  · rw [← isDesk, ← (t.fire_desk setup).2, fire_eq, desk]
    cases t.frames.isArmed <;> rfl
  · rw [← isDesk]
    exact readings.trans (Nat.zero_add _)

/-- Every call of a host that counts them finds a frame armed.  The first fire is too early. -/
theorem one_frame_stays_armed_counted :
    let watch : Watch Nat Bool := fun frames count => (some frames.isArmed, count + 1)
    let events := [.fire, .start, .fire, .tick, .shift id, .fire]
    let l := run watch 0 events
    l.start = l ∧ answers watch { host := 0 } events = [false, true, true] ∧
    l.host = l.ticks ∧ l.ticks = 3 ∧ l.spawned = [true, true, true] := by
  intro watch events l
  obtain ⟨-, -, ticks, -, -, -, again, -⟩ := one_frame_stays_armed watch 0 events
  exact ⟨again rfl, rfl, rfl, ticks, rfl⟩

end Loop

end Rerun
