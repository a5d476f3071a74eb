import Rerun.Proofs.Session.Delivery
import Rerun.Proofs.Session.Detection

/-! The counters of a session.  Every step adds to them exactly what it did, and together
they account for all cycles. -/

namespace Rerun

variable {Handle Instance : Type}

def Move.setup (settings : Settings) (m : Move Handle Instance) : Setup Handle Instance :=
  ⟨m.assembler, m.sandbox, settings⟩

def Setup.assembles (setup : Setup Handle Instance) (c : Cycle) : Bool :=
  (setup.assembler.assemble setup.settings 0 c.text).binary.isOk

theorem Setup.opening_phase (setup : Setup Handle Instance) (c : Cycle) :
    (setup.opening c.id c.text).phase =
      if setup.assembles c then .executing else .failed := by
  rw [opening, assembles]
  cases (setup.assembler.assemble setup.settings 0 c.text).binary <;> rfl

@[simp] theorem Stats.opened_assemblies (stats : Stats) (phase : Phase) :
    (stats.opened phase).assemblies = stats.assemblies + 1 := by
  cases phase <;> rfl

/-- The counters that reports have no part in. -/
def Stats.unreported (stats : Stats) : Stats :=
  { stats with reports := 0, droppedReports := 0 }

@[simp] theorem Stats.unreported_reported (stats : Stats) (stale : Bool) :
    (stats.reported stale).unreported = stats.unreported := by
  cases stale <;> rfl

instance : LE Stats where
  le first second :=
    first.cyclesStarted ≤ second.cyclesStarted ∧ first.assemblies ≤ second.assemblies ∧
    first.executions ≤ second.executions ∧ first.reports ≤ second.reports ∧
    first.droppedReports ≤ second.droppedReports

namespace Session

def begun? (s : Session Instance) : Step → Option Cycle
  | .begin id => s.detected.find? (·.id == id)
  | _ => none

/-- The cycle that a step begins in vain, because its text is refused. -/
def refused? (setup : Setup Handle Instance) (s : Session Instance) (step : Step) :
    Option Cycle :=
  (s.begun? step).filter (!setup.assembles ·)

def refusals (settings : Settings) :
    Session Instance → List (Move Handle Instance) → List Cycle
  | _, [] => []
  | s, m :: rest =>
      (s.refused? (m.setup settings) m.step).toList ++ refusals settings (s.move settings m) rest

theorem refusals_concat (settings : Settings) (s : Session Instance)
    (moves : List (Move Handle Instance)) (m : Move Handle Instance) :
    refusals settings s (moves ++ [m]) =
      refusals settings s moves ++
        ((moves.foldl (move settings) s).refused? (m.setup settings) m.step).toList := by
  induction moves generalizing s with
  | nil => simp [refusals]
  | cons head tail ih =>
      simp only [List.cons_append, refusals, ih, List.append_assoc, List.foldl_cons]

/-- What is completed is either delivered and counted as reported, or counted as dropped. -/
def Settles (s t : Session Instance) : Prop :=
  ∃ ended sent : List Completion,
    t.completed = s.completed ++ ended ∧ t.delivered = s.delivered ++ sent ∧
    sent.Sublist ended ∧ ended.length ≤ 1 ∧
    t.stats.reports = s.stats.reports + sent.length ∧
    t.stats.reports + t.stats.droppedReports =
      s.stats.reports + s.stats.droppedReports + ended.length

theorem Settles.refl (s : Session Instance) : s.Settles s :=
  ⟨[], [], by simp⟩

theorem settle_settles (settings : Settings) (s : Session Instance) (c : Cycle)
    (p : Progress Instance) : s.Settles (s.settle settings c p) := by
  cases p with
  | paused standing => exact Settles.refl s
  | ended outcome =>
      rw [settle, finish_eq]
      cases isStale settings.reportPolicy s.lastReported c.id with
      | true =>
          refine ⟨[(c.id, outcome)], [], rfl, rfl, List.nil_sublist _, Nat.le_refl 1, rfl, ?_⟩
          simp [Stats.reported, Nat.add_assoc]
      | false =>
          refine ⟨[(c.id, outcome)], [(c.id, outcome)], rfl, rfl, List.Sublist.refl _,
            Nat.le_refl 1, rfl, ?_⟩
          simp [Stats.reported, Nat.add_right_comm]

@[simp] theorem settle_unreported (settings : Settings) (s : Session Instance) (c : Cycle)
    (p : Progress Instance) :
    (s.settle settings c p).stats.unreported = s.stats.unreported := by
  cases p with
  | paused standing => rfl
  | ended outcome =>
      rw [settle, finish_eq]
      exact Stats.unreported_reported s.stats _

theorem settle_assemblies (settings : Settings) (s : Session Instance) (c : Cycle)
    (p : Progress Instance) :
    (s.settle settings c p).stats.assemblies = s.stats.assemblies := by
  have same := congrArg Stats.assemblies (settle_unreported settings s c p)
  exact same

theorem settle_executions (settings : Settings) (s : Session Instance) (c : Cycle)
    (p : Progress Instance) :
    (s.settle settings c p).stats.executions = s.stats.executions := by
  have same := congrArg Stats.executions (settle_unreported settings s c p)
  exact same

/-- What a step adds to the counters. -/
structure Booked (setup : Setup Handle Instance) (s : Session Instance) (step : Step)
    (t : Session Instance) : Prop where
  started : t.stats.cyclesStarted =
    s.stats.cyclesStarted + (s.created? step).toList.length
  assembled : t.stats.assemblies = s.stats.assemblies + (s.begun? step).toList.length
  executed : t.stats.executions + (s.refused? setup step).toList.length =
    s.stats.executions + (s.begun? step).toList.length
  settles : s.Settles t

theorem Booked.idle {setup : Setup Handle Instance} {s : Session Instance} {step : Step}
    (created : s.created? step = none) (begun : s.begun? step = none) :
    Booked setup s step s := by
  constructor
  · simp [created]
  · simp [begun]
  · simp [refused?, begun]
  · exact Settles.refl s

theorem opened_settles (setup : Setup Handle Instance) {s t : Session Instance} {c : Cycle}
    (settles : ((s.dequeued c.id).opened setup c).Settles t) : s.Settles t := by
  have same : ∀ phase : Phase,
      (s.stats.opened phase).reports = s.stats.reports ∧
      (s.stats.opened phase).droppedReports = s.stats.droppedReports := by
    intro phase
    cases phase <;> exact ⟨rfl, rfl⟩
  obtain ⟨reports, dropped⟩ := same (setup.opening c.id c.text).phase
  simpa only [Settles, opened, dequeued, reports, dropped] using settles

theorem step_booked (setup : Setup Handle Instance) (s : Session Instance) (step : Step) :
    Booked setup s step (s.step setup step) := by
  cases step with
  | detect reading =>
      rcases s.detect_cases reading with ⟨-, nothing⟩ | ⟨text, rfl, -, created⟩
      · simp only [Session.step, nothing]
        exact Booked.idle (congrArg Prod.fst nothing) rfl
      · simp only [Session.step, created]
        refine ⟨?_, rfl, rfl, Settles.refl s⟩
        rw [created?, created]
        rfl
  | begin id =>
      cases found : s.detected.find? (·.id == id) with
      | none =>
          simp only [Session.step, begin, found]
          exact Booked.idle rfl found
      | some c =>
          obtain rfl : c.id = id := by simpa using List.find?_some found
          simp only [Session.step, begin, found, launch_eq]
          have begun : s.begun? (.begin c.id) = some c := found
          have phase := setup.opening_phase c
          constructor
          · rw [settle_cyclesStarted]
            exact Stats.opened_cyclesStarted s.stats _
          · rw [settle_assemblies, begun]
            exact Stats.opened_assemblies s.stats _
          · rw [settle_executions, refused?, begun]
            change (s.stats.opened _).executions + _ = _
            cases assembled : setup.assembles c <;>
              simp [phase, assembled, Stats.opened, Option.filter_some]
          · exact opened_settles setup (settle_settles setup.settings _ _ _)
  | resume id =>
      cases found : s.suspended.find? (·.1.id == id) with
      | none =>
          simp only [Session.step, resume, found]
          exact Booked.idle rfl rfl
      | some entry =>
          obtain ⟨c, standing⟩ := entry
          obtain rfl : c.id = id := by simpa using List.find?_some found
          simp only [Session.step, resume, found, proceed_eq]
          exact ⟨settle_cyclesStarted .., settle_assemblies .., settle_executions ..,
            settle_settles setup.settings (s.resumed c standing) c _⟩
  | discard id =>
      cases found : s.detected.find? (·.id == id) with
      | none =>
          simp only [Session.step, discard, found]
          exact Booked.idle rfl rfl
      | some c =>
          simp only [Session.step, discard, found]
          exact ⟨rfl, rfl, rfl, Settles.refl s⟩

section Booked

variable {setup : Setup Handle Instance} {s t : Session Instance} {step : Step}

theorem length_refused?_le (setup : Setup Handle Instance) (s : Session Instance)
    (step : Step) : (s.refused? setup step).toList.length ≤ (s.begun? step).toList.length := by
  cases begun : s.begun? step with
  | none => simp [refused?, begun]
  | some c => cases setup.assembles c <;> simp [refused?, begun]

theorem Booked.stats_le (booked : Booked setup s step t) : s.stats ≤ t.stats := by
  have started := booked.started
  have assembled := booked.assembled
  have executed := booked.executed
  have refused := length_refused?_le setup s step
  obtain ⟨ended, sent, -, -, part, -, reports, dropped⟩ := booked.settles
  have fewer := part.length_le
  refine ⟨?_, ?_, ?_, ?_, ?_⟩ <;> omega

theorem Booked.delivered_length (booked : Booked setup s step t)
    (before : s.stats.reports = s.delivered.length) :
    t.stats.reports = t.delivered.length := by
  obtain ⟨ended, sent, -, delivered, -, -, reports, -⟩ := booked.settles
  rw [reports, delivered, List.length_append, before]

theorem Booked.completed_length (booked : Booked setup s step t)
    (before : s.stats.reports + s.stats.droppedReports = s.completed.length) :
    t.stats.reports + t.stats.droppedReports = t.completed.length := by
  obtain ⟨ended, sent, completed, -, -, -, -, dropped⟩ := booked.settles
  rw [dropped, completed, List.length_append, before]

theorem Effect.begunIds_length (effect : Effect setup s step t) (counted : s.Counted)
    (before : s.stats.assemblies = s.begunIds.length) :
    t.stats.assemblies = t.begunIds.length := by
  cases effect with
  | idle => exact before
  | started text changed => exact before
  | discarded c found => exact before
  | begun c found =>
      have begun := settle_begunIds_perm setup.settings ((s.dequeued c.id).opened setup c)
        { c with phase := (setup.opening c.id c.text).phase }
        (setup.opening c.id c.text).progress
      rw [settle_assemblies, begun.length_eq, List.length_cons]
      exact (Stats.opened_assemblies s.stats _).trans (congrArg (· + 1) before)
  | resumed c standing found =>
      have taken := counted.awakened_begunIds_perm (List.mem_of_find?_eq_some found)
      have begun := settle_begunIds_perm setup.settings (s.resumed c standing) c
        (standing.next setup.sandbox)
      rw [settle_assemblies, (begun.trans taken.symm).length_eq]
      exact before

end Booked

/-- The counters agree with what the session holds. -/
structure Balanced (s : Session Instance) : Prop where
  begun : s.stats.assemblies = s.begunIds.length
  delivered : s.stats.reports = s.delivered.length
  completed : s.stats.reports + s.stats.droppedReports = s.completed.length

theorem Balanced.assemblies_eq {s : Session Instance} (balanced : s.Balanced) :
    s.stats.assemblies =
      s.suspended.length + s.stats.reports + s.stats.droppedReports := by
  have begun := balanced.begun
  have completed := balanced.completed
  simp only [begunIds, List.length_append, List.length_map] at begun
  omega

theorem Balanced.sum_eq_nextCycle {s : Session Instance} (balanced : s.Balanced)
    (counted : s.Counted) :
    s.detected.length + s.discarded.length + s.stats.assemblies = s.nextCycle := by
  have all := counted.length_eq
  have begun := balanced.begun
  simp only [ids, List.length_append, List.length_map, List.length_range] at all
  omega

theorem Balanced.droppedReports_eq_zero {s : Session Instance} (balanced : s.Balanced)
    (everything : s.delivered = s.completed) : s.stats.droppedReports = 0 := by
  have delivered := balanced.delivered
  have completed := balanced.completed
  rw [everything] at delivered
  omega

theorem move_booked (settings : Settings) (s : Session Instance) (m : Move Handle Instance) :
    Booked (m.setup settings) s m.step (s.move settings m) :=
  step_booked (m.setup settings) s m.step

theorem play_balanced (settings : Settings) (moves : List (Move Handle Instance)) :
    (play settings moves).Balanced := by
  induction moves using List.reverseRecOn with
  | nil => exact ⟨rfl, rfl, rfl⟩
  | append_singleton moves m ih =>
      have counted := play_counted settings moves
      have booked := move_booked settings (play settings moves) m
      have effect := step_effect (m.setup settings) (play settings moves) m.step
      rw [play_concat]
      exact ⟨effect.begunIds_length counted ih.begun, booked.delivered_length ih.delivered,
        booked.completed_length ih.completed⟩

theorem play_executions (settings : Settings) (moves : List (Move Handle Instance)) :
    (play settings moves).stats.executions + (refusals settings {} moves).length =
      (play settings moves).stats.assemblies := by
  induction moves using List.reverseRecOn with
  | nil => rfl
  | append_singleton moves m ih =>
      have booked := move_booked settings (play settings moves) m
      have executed := booked.executed
      have assembled := booked.assembled
      have here : moves.foldl (move settings) {} = play settings moves := rfl
      rw [play_concat, refusals_concat, here, List.length_append]
      omega

theorem play_creations_length (settings : Settings) (moves : List (Move Handle Instance)) :
    (play settings moves).stats.cyclesStarted = (creations settings {} moves).length := by
  induction moves using List.reverseRecOn with
  | nil => rfl
  | append_singleton moves m ih =>
      have booked := move_booked settings (play settings moves) m
      have here : moves.foldl (move settings) {} = play settings moves := rfl
      rw [play_concat, booked.started, creations_concat, here, List.length_append, ih]

theorem play_creations_ids (settings : Settings) (moves : List (Move Handle Instance)) :
    (creations settings {} moves).map (·.id) = List.range (play settings moves).nextCycle := by
  have follows := play_follows settings moves
  have numbered := congrArg (List.map Prod.snd) (creations_zipIdx settings moves)
  rw [List.map_map, List.zipIdx_map_snd, ← follows.count, ← List.range_eq_range'] at numbered
  exact numbered

/-- The counters after some moves, and the cycles and the reports that they count. -/
structure Conserved (settings : Settings) (errorPrefix : String)
    (moves : List (Move Handle Instance)) (s : Session Instance) : Prop where
  numbered : (creations settings {} moves).map (·.id) = List.range s.nextCycle
  started : s.stats.cyclesStarted = s.nextCycle
  detected : s.stats.cyclesStarted =
    s.detected.length + s.discarded.length + s.stats.assemblies
  begun : s.stats.assemblies =
    s.suspended.length + s.stats.reports + s.stats.droppedReports
  executed : s.stats.executions + (refusals settings {} moves).length = s.stats.assemblies
  delivered : s.stats.reports = s.delivered.length
  written : s.stats.reports = (s.screen errorPrefix).writes
  newest : s.lastReported = (s.delivered.map (·.1)).max?
  silent_iff : s.lastReported = none ↔ s.stats.reports = 0
  dropped : s.stats.droppedReports = 0 ∨ settings.reportPolicy = .latestStarted
  grows : ∀ m : Move Handle Instance, s.stats ≤ (s.move settings m).stats
  booked : ∀ m : Move Handle Instance,
    Booked (m.setup settings) s m.step (s.move settings m)

/-- Every cycle that was started is counted once in each sum it belongs to, and every step
books exactly what it did. -/
theorem cycles_are_conserved (settings : Settings) (errorPrefix : String)
    (moves : List (Move Handle Instance)) :
    Conserved settings errorPrefix moves (play settings moves) := by
  let s := play settings moves
  have balanced : s.Balanced := play_balanced settings moves
  have reported : s.Reported settings := play_reported settings moves
  have numbered : (creations settings {} moves).map (·.id) = List.range s.nextCycle :=
    play_creations_ids settings moves
  have started : s.stats.cyclesStarted = s.nextCycle := by
    have length := congrArg List.length numbered
    rw [List.length_map, List.length_range] at length
    exact (play_creations_length settings moves).trans length
  have newest : s.lastReported = (s.delivered.map (·.1)).max? := by
    rw [reported.newest, reported.delivered, ReportPolicy.admitted_max?]
  refine ⟨numbered, started, ?_, balanced.assemblies_eq, play_executions settings moves,
    balanced.delivered, ?_, newest, ?_, ?_, fun m => (move_booked settings s m).stats_le,
    move_booked settings s⟩
  · exact started.trans (balanced.sum_eq_nextCycle (play_counted settings moves)).symm
  · rw [screen, Screen.showing_writes]
    exact balanced.delivered
  · rw [newest, List.max?_eq_none_iff, List.map_eq_nil_iff, ← List.length_eq_zero_iff,
      ← balanced.delivered]
  · cases policy : settings.reportPolicy with
    | latestStarted => exact .inr rfl
    | lastCompleted =>
        have everything : s.delivered = s.completed := by
          rw [reported.delivered, policy]
          rfl
        exact .inl (balanced.droppedReports_eq_zero everything)

end Session

/-- One cycle for each fate: dropped, reported, suspended, thrown away, waiting. -/
example :
    (Session.run (Setup.leisurely .latestStarted)
      [.detect (some "a"), .detect (some ""), .begin 0, .begin 1, .resume 0,
        .detect (some "b"), .begin 2, .detect (some "c"), .discard 3,
        .detect (some "d")]).stats = ⟨5, 3, 3, 1, 1⟩ := rfl

end Rerun
