import Rerun.Proofs.Desk.Turn
import Rerun.Proofs.Session.Hung

/-! Turns at a desk from which the steps that resume one cycle are left out.  Nothing else
is: where that cycle was released, the pool is still run. -/

namespace Rerun

variable {Handle Instance : Type}

theorem Setup.filter_moves (setup : Setup Handle Instance) (keep : CycleId → Bool)
    (steps : List Step) :
    (setup.moves steps).filter (·.step.isKept keep) =
      setup.moves (steps.filter (·.isKept keep)) := by
  rw [moves, List.filter_map]
  rfl

namespace Desk

def Turn.does (t : Turn Handle Instance) (a : Action) : Turn Handle Instance :=
  { t with deed := .act a }

/-- A turn without what resumes the cycle.  A release is told by the cycle that was held, not
by its pause, as pauses are numbered otherwise where the cycle no longer goes on. -/
def spare (id : CycleId) (d : Desk Instance) (t : Turn Handle Instance) :
    List (Turn Handle Instance) :=
  match t.deed with
  | .act (.release index) =>
      match d.ticker.session.heldAt index with
      | none => [t.does .run]
      | some held =>
          if held = id then [t.does .run] else [t.does (.resume held), t.does .run]
  | .act (.resume other) => if other = id then [] else [t]
  | .step (.resume other) => if other = id then [] else [t]
  | _ => [t]

def sparing (settings : Settings) (id : CycleId) :
    Desk Instance → List (Turn Handle Instance) → List (Turn Handle Instance)
  | _, [] => []
  | d, t :: rest => spare id d t ++ sparing settings id (d.turn settings t) rest

theorem filter_begins (keep : CycleId → Bool) (s : Session Instance) :
    (begins s).filter (·.isKept keep) = begins s := by
  apply List.filter_eq_self.mpr
  intro step member
  obtain ⟨c, -, rfl⟩ := List.mem_map.mp member
  rfl

/-- An action neither resumes a cycle nor releases one. -/
def Action.isOpen : Action → Bool
  | release _ | resume _ => false
  | _ => true

theorem filter_steps (keep : CycleId → Bool) (setup : Setup Handle Instance)
    (d : Desk Instance) {a : Action} (isOpen : a.isOpen) :
    (d.steps setup a).filter (·.isKept keep) = d.steps setup a := by
  cases a with
  | fire => cases armed : d.ticker.frames.isArmed <;> simp [steps, armed, Step.isKept]
  | run => exact filter_begins keep d.ticker.session
  | release index | resume other => cases isOpen
  | _ => rfl

section Spare

variable {d e : Desk Instance} (settings : Settings) (id : CycleId)

theorem record_singleton (t : Turn Handle Instance) :
    e.record settings [t] = e.moves settings t :=
  List.append_nil _

theorem spare_act (t : Turn Handle Instance) {a : Action} (deed : t.deed = .act a)
    (isOpen : a.isOpen) : spare id d t = [t] := by
  rw [spare, deed]
  cases a with
  | release index | resume other => cases isOpen
  | _ => rfl

theorem spare_record (same : d.front = e.front)
    (detected : d.ticker.session.detected = e.ticker.session.detected)
    (t : Turn Handle Instance) :
    e.record settings (spare id d t) =
      (d.moves settings t).filter (·.step.isKept (· != id)) := by
  obtain ⟨assembler, sandbox, deed⟩ := t
  cases deed with
  | step step =>
      cases step with
      | resume other =>
          by_cases own : other = id <;>
            simp [spare, record, moves, own, Setup.moves, Step.isKept]
      | _ => rfl
  | act a =>
      cases isOpen : a.isOpen with
      | true =>
          have steps := steps_congr same detected ⟨assembler, sandbox, settings⟩
            ⟨assembler, sandbox, settings⟩ a (by rintro index rfl; cases isOpen)
          rw [spare_act id _ rfl isOpen, record_singleton]
          simp only [moves, Setup.filter_moves, filter_steps _ _ _ isOpen]
          exact congrArg _ steps.symm
      | false =>
          cases a with
          | resume other =>
              by_cases own : other = id <;>
                simp [spare, record, moves, steps, own, Setup.moves, Step.isKept]
          | release index =>
              -- the cycle is released at its pause there, and by its own number here
              simp only [moves, Setup.filter_moves, release_steps, List.filter_append,
                filter_begins]
              cases held : d.ticker.session.heldAt index with
              | none =>
                  simp [spare, held, record, moves, steps, begins, detected, Turn.does,
                    Turn.setup]
              | some other =>
                  by_cases own : other = id
                  · simp [spare, held, own, record, moves, steps, begins, detected,
                      Turn.does, Turn.setup, Step.isKept]
                  · simp [spare, held, own, record, moves, steps, begins, detected,
                      Turn.does, Turn.setup, Step.isKept, turn, act, Setup.moves,
                      Session.resume_detected]
          | _ => cases isOpen

theorem spare_front (same : d.front = e.front) (t : Turn Handle Instance) :
    ((spare id d t).foldl (turn settings) e).front = (d.turn settings t).front := by
  have unchanged := turn_front_congr same settings settings t
  obtain ⟨assembler, sandbox, deed⟩ := t
  cases deed with
  | step step =>
      cases step with
      | resume other =>
          by_cases own : other = id <;> simp only [spare, own, if_true, if_false]
          · exact same.symm
          · exact unchanged.symm
      | _ => exact unchanged.symm
  | act a =>
      cases isOpen : a.isOpen with
      | true =>
          rw [spare_act id _ rfl isOpen]
          exact unchanged.symm
      | false =>
          cases a with
          | resume other =>
              by_cases own : other = id <;> simp only [spare, own, if_true, if_false]
              · exact same.symm
              · exact unchanged.symm
          | release index =>
              have released : (d.turn settings
                  ⟨assembler, sandbox, .act (.release index)⟩).front = d.front :=
                release_front ⟨assembler, sandbox, settings⟩ d index
              rw [released, same]
              cases held : d.ticker.session.heldAt index with
              | none =>
                  simp only [spare, held]
                  rfl
              | some other =>
                  by_cases own : other = id <;> simp only [spare, held, own, if_true, if_false]
                    <;> rfl
          | _ => cases isOpen

theorem record_append (d : Desk Instance) (first second : List (Turn Handle Instance)) :
    d.record settings (first ++ second) =
      d.record settings first ++
        (first.foldl (turn settings) d).record settings second := by
  induction first generalizing d with
  | nil => rfl
  | cons t rest ih => simp only [List.cons_append, record, ih, List.foldl_cons, List.append_assoc]

theorem sparing_append (d : Desk Instance) (first second : List (Turn Handle Instance)) :
    sparing settings id d (first ++ second) =
      sparing settings id d first ++
        sparing settings id (first.foldl (turn settings) d) second := by
  induction first generalizing d with
  | nil => rfl
  | cons t rest ih =>
      simp only [List.cons_append, sparing, ih, List.foldl_cons, List.append_assoc]

/-- The desk that spares the cycle goes through the moves that do not resume it, and its
front is that of the other desk. -/
theorem foldl_sparing (same : d.front = e.front)
    (alike : d.ticker.session.backstage (· != id) = e.ticker.session.backstage (· != id))
    (turns : List (Turn Handle Instance)) :
    e.record settings (sparing settings id d turns) =
      (d.record settings turns).filter (·.step.isKept (· != id)) ∧
    ((sparing settings id d turns).foldl (turn settings) e).front =
      (turns.foldl (turn settings) d).front := by
  induction turns generalizing d e with
  | nil => exact ⟨rfl, same.symm⟩
  | cons t rest ih =>
      have detected : d.ticker.session.detected = e.ticker.session.detected := by
        simpa using congrArg Session.detected alike
      have moves := spare_record settings id same detected t
      have front := (spare_front settings id same t).symm
      -- the sessions stay alike behind the sink, since what is left out only resumes the cycle
      have next : (d.turn settings t).ticker.session.backstage (· != id) =
          ((spare id d t).foldl (turn settings) e).ticker.session.backstage (· != id) := by
        rw [turn_session, foldl_turn_session, moves]
        exact Session.foldl_backstage settings settings.reportPolicy settings.reportPolicy
          alike _
      obtain ⟨later, last⟩ := ih front next
      constructor
      · rw [sparing, record_append, moves, later, record, List.filter_append]
      · rw [sparing, List.foldl_append]
        exact last

end Spare

/-- Two desks, the second of which went on without one cycle being resumed. -/
structure SameBut (id : CycleId) (d e : Desk Instance) : Prop where
  ticks : e.ticker.ticks = d.ticker.ticks
  frames : e.ticker.frames = d.ticker.frames
  board : e.board = d.board
  baseline : e.ticker.session.baseline = d.ticker.session.baseline
  detected : e.ticker.session.detected = d.ticker.session.detected
  only : ∀ other, other ≠ id → e.ticker.session.only other = d.ticker.session.only other
  calls : e.ticker.session.calls.filter (·.cycle?.all (· != id)) =
    d.ticker.session.calls.filter (·.cycle?.all (· != id))
  pauses : e.ticker.session.pauses.filter (· != id) = d.ticker.session.pauses.filter (· != id)
  completed : e.ticker.session.completed.filter (·.1 != id) =
    d.ticker.session.completed.filter (·.1 != id)

/-- A cycle hangs in the second session, and of what the sink was given in the first it misses
the completion of that cycle only. -/
structure Missed (policy : ReportPolicy) (id : CycleId) (s t : Session Instance) : Prop where
  hangs : t.Hangs id
  every : policy = .lastCompleted → t.delivered = s.delivered.filter (·.1 != id)
  newest : policy = .latestStarted → t.delivered = leaders (s.completed.filter (·.1 != id))
  kept : ∀ entry ∈ s.delivered, entry.1 ≠ id → entry ∈ t.delivered

/-- A cycle that is never resumed once it has paused harms no other: the loop ticks, detects
and begins as before, and every other cycle pauses and ends where it did and as it did.  The
sink misses the one completion, and what that completion had made late is not late any
more. -/
theorem hung_cycle_harms_no_other (settings : Settings) (board : Board)
    (turns : List (Turn Handle Instance)) (id : CycleId) :
    let spared := sparing settings id { board } turns
    let d := play settings board turns
    let e := play settings board spared
    SameBut id d e ∧
    Session.creations settings {} (record settings { board } spared) =
      Session.creations settings {} (record settings { board } turns) ∧
    (∀ more, sparing settings id { board } (turns ++ more) =
      spared ++ sparing settings id d more) ∧
    (id ∈ d.ticker.session.pauses →
      Missed settings.reportPolicy id d.ticker.session e.ticker.session) := by
  intro spared d e
  let s := d.ticker.session
  let t := e.ticker.session
  obtain ⟨moves, front⟩ :=
    foldl_sparing settings id (d := { board }) (e := { board }) rfl rfl turns
  obtain ⟨sameBoard, frames, ticks⟩ := front_congr front
  have isPlay : s = Session.play settings (record settings { board } turns) :=
    play_session settings board turns
  have isSpared : t = Session.play settings
      ((record settings { board } turns).filter (·.step.isKept (· != id))) := by
    rw [← moves]
    exact play_session settings board spared
  have alike : t.backstage (· != id) = s.backstage (· != id) := by
    rw [isPlay, isSpared]
    exact Session.play_spared_backstage settings _ id
  have creations : Session.creations settings {} (record settings { board } spared) =
      Session.creations settings {} (record settings { board } turns) := by
    rw [moves]
    exact (Session.creations_backstage settings settings.reportPolicy settings.reportPolicy
      rfl _).symm
  simp only [Session.backstage, Session.mk.injEq] at alike
  obtain ⟨baseline, -, detected, -, -, -, calls, -, pauses, completed, -, -⟩ := alike
  have only (other : CycleId) (different : other ≠ id) : t.only other = s.only other := by
    rw [isPlay, isSpared]
    exact Session.play_spared_only settings _ id different
  refine ⟨⟨ticks, frames, sameBoard, baseline, detected, only, calls, pauses, completed⟩,
    creations, sparing_append settings id { board } turns, fun paused => ?_⟩
  have paused : id ∈ s.pauses := paused
  have hung : t.Hangs id := by
    rw [isSpared]
    exact (Session.play_hangs settings _ id).1 (isPlay ▸ paused)
  have ended : t.completed = s.completed.filter (·.1 != id) := by
    rw [isPlay, isSpared]
    exact Session.play_spared_completed settings _ id (isPlay ▸ paused)
  have reported : s.Reported settings := isPlay ▸ Session.play_reported settings _
  have sparedReported : t.Reported settings := isSpared ▸ Session.play_reported settings _
  have every (policy : settings.reportPolicy = .lastCompleted) :
      t.delivered = s.delivered.filter (·.1 != id) := by
    rw [sparedReported.delivered, reported.delivered, policy, ended]
    rfl
  have newest (policy : settings.reportPolicy = .latestStarted) :
      t.delivered = leaders (s.completed.filter (·.1 != id)) := by
    rw [sparedReported.delivered, policy, ended]
    rfl
  have kept (entry : Completion) (member : entry ∈ s.delivered) (different : entry.1 ≠ id) :
      entry ∈ t.delivered := by
    cases policy : settings.reportPolicy with
    | lastCompleted =>
        rw [every policy]
        exact List.mem_filter.mpr ⟨member, by simpa using different⟩
    | latestStarted =>
        rw [newest policy]
        rw [reported.delivered, policy] at member
        exact leaders_filter member (by simpa using different)
  exact ⟨hung, every, newest, kept⟩

/-- Cycle 1 overtakes cycle 0, which it makes late. -/
def overtaking : List Action :=
  [.start, .write "a", .fire, .run, .write "b", .fire, .run, .release 1, .release 0]

theorem hung_cycle_harms_no_other_overtaken :
    let setup := Setup.leisurely .latestStarted
    let s := (run setup {} overtaking).ticker.session
    let spared := sparing setup.settings 1 {} (turns setup overtaking)
    let t := (play setup.settings {} spared).ticker.session
    1 ∈ s.pauses ∧ s.delivered = [(1, .ok .void)] ∧
    t.Hangs 1 ∧ t.delivered = [(0, .ok .void)] ∧ t.only 0 = s.only 0 := by
  have paused : 1 ∈ (run (Setup.leisurely .latestStarted) {}
      overtaking).ticker.session.pauses := by decide
  have completed : (run (Setup.leisurely .latestStarted) {}
      overtaking).ticker.session.completed = [(1, .ok .void), (0, .ok .void)] := rfl
  obtain ⟨same, -, -, missed⟩ :=
    hung_cycle_harms_no_other (Setup.leisurely .latestStarted).settings {}
      (turns (Setup.leisurely .latestStarted) overtaking) 1
  rw [play_turns] at same missed
  have missed := missed paused
  refine ⟨paused, rfl, missed.hangs, ?_, same.only 0 (by decide)⟩
  rw [missed.newest rfl, completed]
  rfl

end Desk

end Rerun
