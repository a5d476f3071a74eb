import Rerun.Proofs.Desk.Turn

/-! Two desks that differ in nothing but the policy.  Through the same turns they part at
the sink only: one is given every completion, the other the leaders among them. -/

namespace Rerun

variable {Handle Instance : Type}

theorem Move.filter_isKept_all (moves : List (Move Handle Instance)) :
    moves.filter (·.step.isKept fun _ => true) = moves := by
  apply List.filter_eq_self.mpr
  intro m member
  cases m.step <;> rfl

namespace Session

section Alike

variable {s t : Session Instance}

theorem heldAt_congr
    (alike : s.backstage (fun _ => true) = t.backstage (fun _ => true)) (index : Nat) :
    s.heldAt index = t.heldAt index := by
  rw [backstage_all, backstage_all] at alike
  simp only [mk.injEq] at alike
  obtain ⟨-, -, -, suspended, -, -, -, -, pauses, -⟩ := alike
  simp only [heldAt, suspended, pauses]

theorem foldl_reporting
    (alike : s.backstage (fun _ => true) = t.backstage (fun _ => true)) (settings : Settings)
    (policy other : ReportPolicy) (moves : List (Move Handle Instance)) :
    (moves.foldl (move (settings.reporting policy)) s).backstage (fun _ => true) =
      (moves.foldl (move (settings.reporting other)) t).backstage (fun _ => true) := by
  have same := foldl_backstage settings policy other alike moves
  rwa [Move.filter_isKept_all] at same

end Alike

theorem creations_reporting (settings : Settings) (policy other : ReportPolicy)
    (moves : List (Move Handle Instance)) :
    creations (settings.reporting policy) {} moves =
      creations (settings.reporting other) {} moves := by
  have alike : ({} : Session Instance).backstage (fun _ => true) =
      ({} : Session Instance).backstage (fun _ => true) := rfl
  have same := creations_backstage settings policy other alike moves
  rwa [Move.filter_isKept_all] at same

theorem leaders_eq_completed_iff {s : Session Instance} (balanced : s.Balanced)
    (isLeaders : s.delivered = leaders s.completed) :
    leaders s.completed = s.completed ↔ s.stats.droppedReports = 0 := by
  have part := leaders_sublist s.completed
  have delivered := balanced.delivered
  have completed := balanced.completed
  rw [isLeaders] at delivered
  constructor
  · intro same
    rw [same] at delivered
    omega
  · intro none
    exact part.eq_of_length (by omega)

end Session

namespace Desk

section Alike

variable {d e : Desk Instance} (settings : Settings) (policy other : ReportPolicy)

theorem moves_reporting (same : d.front = e.front)
    (alike : d.ticker.session.backstage (fun _ => true) =
      e.ticker.session.backstage (fun _ => true)) (t : Turn Handle Instance) :
    d.moves (settings.reporting policy) t = e.moves (settings.reporting other) t := by
  have detected : d.ticker.session.detected = e.ticker.session.detected := by
    simpa using congrArg Session.detected alike
  simp only [moves]
  cases t.deed with
  | step step => rfl
  | act a =>
      have steps := steps_congr same detected (t.setup (settings.reporting policy))
        (t.setup (settings.reporting other)) a fun index _ => Session.heldAt_congr alike index
      exact congrArg (List.map (Move.mk t.assembler t.sandbox)) steps

/-- Desks of different policies stay alike, and their sessions take the same moves. -/
theorem foldl_turn_reporting (same : d.front = e.front)
    (alike : d.ticker.session.backstage (fun _ => true) =
      e.ticker.session.backstage (fun _ => true)) (turns : List (Turn Handle Instance)) :
    d.record (settings.reporting policy) turns = e.record (settings.reporting other) turns ∧
    (turns.foldl (turn (settings.reporting policy)) d).front =
      (turns.foldl (turn (settings.reporting other)) e).front := by
  induction turns generalizing d e with
  | nil => exact ⟨rfl, same⟩
  | cons t rest ih =>
      have moves := moves_reporting settings policy other same alike t
      have next : (d.turn (settings.reporting policy) t).ticker.session.backstage
            (fun _ => true) =
          (e.turn (settings.reporting other) t).ticker.session.backstage (fun _ => true) := by
        rw [turn_session, turn_session, moves]
        exact Session.foldl_reporting alike settings policy other _
      obtain ⟨later, front⟩ := ih (turn_front_congr same _ _ t) next
      refine ⟨?_, front⟩
      rw [record, record, moves, later]

end Alike

/-- Sessions of two policies, the second of which drops what is late.  All that they hold and all
that they did is the same, and they part in what they were given to report. -/
structure PartAtSink (s t : Session Instance) : Prop where
  baseline : s.baseline = t.baseline
  detected : s.detected = t.detected
  discarded : s.discarded = t.discarded
  calls : s.calls = t.calls
  suspended : s.suspended = t.suspended
  completed : s.completed = t.completed
  started : s.stats.cyclesStarted = t.stats.cyclesStarted
  assembled : s.stats.assemblies = t.stats.assemblies
  executed : s.stats.executions = t.stats.executions
  everything : s.delivered = s.completed
  distinct : (s.completed.map (·.1)).Nodup
  accounted : s.stats.reports = t.stats.reports + t.stats.droppedReports
  newest : t.delivered = leaders s.delivered
  same_iff_inOrder : s.delivered = t.delivered ↔ (s.completed.map (·.1)).Pairwise (· < ·)
  same_iff_undropped : s.delivered = t.delivered ↔ t.stats.droppedReports = 0

/-- A policy can be told from the sink alone.  Where every completion is reported, the sink
is given all of them in order; where stale ones are dropped, the leaders among them, which
are all of them exactly if none was dropped, and exactly if they came in order. -/
theorem policy_shows_at_the_sink (settings : Settings) (board : Board)
    (turns : List (Turn Handle Instance)) :
    let every := settings.reporting .lastCompleted
    let newest := settings.reporting .latestStarted
    let d := play every board turns
    let e := play newest board turns
    d.ticker.ticks = e.ticker.ticks ∧
    Session.creations every {} (record every { board } turns) =
      Session.creations newest {} (record newest { board } turns) ∧
    PartAtSink d.ticker.session e.ticker.session := by
  intro every newest d e
  let s := d.ticker.session
  let t := e.ticker.session
  obtain ⟨moves, front⟩ := foldl_turn_reporting settings .lastCompleted .latestStarted
    (d := { board }) (e := { board }) rfl rfl turns
  have isPlay : s = Session.play every (record every { board } turns) :=
    play_session every board turns
  have isOther : t = Session.play newest (record every { board } turns) := by
    rw [moves]
    exact play_session newest board turns
  have alike : s.backstage (fun _ => true) = t.backstage (fun _ => true) := by
    rw [isPlay, isOther]
    exact Session.foldl_reporting rfl settings .lastCompleted .latestStarted _
  have creations : Session.creations every {} (record every { board } turns) =
      Session.creations newest {} (record newest { board } turns) := by
    rw [← moves]
    exact Session.creations_reporting settings .lastCompleted .latestStarted _
  rw [Session.backstage_all, Session.backstage_all] at alike
  simp only [Session.mk.injEq, Stats.unreported, Stats.mk.injEq] at alike
  obtain ⟨baseline, -, detected, suspended, ⟨started, assemblies, executions, -, -⟩, -, calls,
    discarded, -, completed, -, -⟩ := alike
  have delivered : s.delivered = s.completed := by
    rw [isPlay]
    exact (Session.play_reported every _).delivered
  have isLeaders : t.delivered = leaders t.completed := by
    rw [isOther]
    exact (Session.play_reported newest _).delivered
  have balanced : s.Balanced := isPlay ▸ Session.play_balanced every _
  have otherBalanced : t.Balanced := isOther ▸ Session.play_balanced newest _
  have distinct : (s.completed.map (·.1)).Nodup :=
    isPlay ▸ (Session.play_counted every _).completed_nodup
  refine ⟨(front_congr front).2.2, creations, baseline, detected, discarded, calls, suspended,
    completed, started, assemblies, executions, delivered, distinct, ?_, ?_, ?_, ?_⟩
  · rw [balanced.delivered, delivered, completed]
    exact otherBalanced.completed.symm
  · rw [isLeaders, delivered, completed]
  · rw [isLeaders, delivered, ← completed, eq_comm]
    exact leaders_eq_self_iff distinct
  · rw [isLeaders, delivered, completed, eq_comm]
    exact Session.leaders_eq_completed_iff otherBalanced isLeaders

end Desk

end Rerun
