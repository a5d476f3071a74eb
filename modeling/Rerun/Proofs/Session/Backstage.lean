import Rerun.Proofs.Session.Conservation
import Rerun.Proofs.Session.Isolation

/-! What goes on behind the sink.  The policy has no part in it, and neither has any cycle
in what goes on about the others. -/

namespace Rerun

variable {Handle Instance : Type}

def Settings.reporting (settings : Settings) (policy : ReportPolicy) : Settings :=
  { settings with reportPolicy := policy }

def Setup.reporting (setup : Setup Handle Instance) (policy : ReportPolicy) :
    Setup Handle Instance :=
  { setup with settings := setup.settings.reporting policy }

@[simp] theorem Setup.opening_reporting (setup : Setup Handle Instance)
    (policy : ReportPolicy) (id : CycleId) (text : String) :
    (setup.reporting policy).opening id text = setup.opening id text := rfl

@[simp] theorem Session.opened_reporting (setup : Setup Handle Instance)
    (policy : ReportPolicy) (s : Session Instance) (c : Cycle) :
    s.opened (setup.reporting policy) c = s.opened setup c := rfl

theorem Stats.unreported_opened_congr {first second : Stats}
    (alike : first.unreported = second.unreported) (phase : Phase) :
    (first.opened phase).unreported = (second.opened phase).unreported := by
  simp only [unreported, mk.injEq] at alike
  cases phase <;> simp [opened, unreported, alike]

def Step.isKept (keep : CycleId → Bool) : Step → Bool
  | resume id => keep id
  | _ => true

private theorem filter_filter_congr {α : Type} {first second : List α} {p : α → Bool}
    (alike : first.filter p = second.filter p) (q : α → Bool) :
    (first.filter q).filter p = (second.filter q).filter p := by
  have swap (l : List α) : (l.filter q).filter p = (l.filter p).filter q := by
    simp only [List.filter_filter, Bool.and_comm]
  rw [swap, alike, swap]

namespace Session

/-- What goes on behind the sink.  Of the cycles that are not kept there is only what they
did before their first pause. -/
def backstage (keep : CycleId → Bool) (s : Session Instance) : Session Instance where
  baseline := s.baseline
  nextCycle := s.nextCycle
  detected := s.detected
  suspended := s.suspended.filter (keep ·.1.id)
  stats := s.stats.unreported
  calls := s.calls.filter (·.cycle?.all keep)
  discarded := s.discarded
  pauses := s.pauses.filter keep
  completed := s.completed.filter (keep ·.1)

@[simp] theorem settle_pauses (settings : Settings) (s : Session Instance) (c : Cycle)
    (p : Progress Instance) :
    (s.settle settings c p).pauses = s.pauses ++ (p.standings c).map (·.1.id) := by
  cases p with
  | paused standing => rfl
  | ended outcome =>
      rw [settle, finish_eq]
      exact (List.append_nil _).symm

/-- Handles are made for no cycle in particular. -/
theorem created_backstage (keep : CycleId → Bool) (s : Session Instance) :
    (s.backstage keep).created = s.created := by
  simp only [created, backstage, List.countP_filter]
  apply List.countP_congr
  intro call member
  cases call <;> simp [Call.isCreation, Call.cycle?]

@[simp] theorem backstage_baseline (keep : CycleId → Bool) (s : Session Instance) :
    (s.backstage keep).baseline = s.baseline := rfl

@[simp] theorem backstage_detected (keep : CycleId → Bool) (s : Session Instance) :
    (s.backstage keep).detected = s.detected := rfl

/-- Of a session of which every cycle is kept, only what has to do with reports is left
out. -/
theorem backstage_all (s : Session Instance) :
    s.backstage (fun _ => true) =
      { s with
        stats := s.stats.unreported
        lastReported := none
        delivered := []
        log := [] } := by
  simp [backstage]

section Congr

variable {keep : CycleId → Bool} {s t : Session Instance}

theorem created_congr (alike : s.backstage keep = t.backstage keep) :
    s.created = t.created := by
  rw [← created_backstage keep s, alike, created_backstage]

theorem dequeued_backstage_congr (alike : s.backstage keep = t.backstage keep)
    (id : CycleId) : (s.dequeued id).backstage keep = (t.dequeued id).backstage keep := by
  simp only [backstage, mk.injEq] at alike
  simp only [backstage, dequeued, alike]

theorem settle_backstage_congr (alike : s.backstage keep = t.backstage keep)
    (settings other : Settings) (c : Cycle) (p : Progress Instance) :
    (s.settle settings c p).backstage keep = (t.settle other c p).backstage keep := by
  simp only [backstage, mk.injEq] at alike
  simp [backstage, alike]

theorem started_backstage_congr (alike : s.backstage keep = t.backstage keep)
    (text : String) : (s.started text).backstage keep = (t.started text).backstage keep := by
  simp only [backstage, Stats.unreported, mk.injEq, Stats.mk.injEq] at alike
  simp [backstage, Stats.unreported, started, alike]

theorem opened_backstage_congr (alike : s.backstage keep = t.backstage keep)
    (setup : Setup Handle Instance) (c : Cycle) :
    (s.opened setup c).backstage keep = (t.opened setup c).backstage keep := by
  have created := created_congr alike
  have counted : s.stats.unreported = t.stats.unreported := congrArg stats alike
  simp only [backstage, mk.injEq] at alike
  simp [backstage, opened, created, alike, Stats.unreported_opened_congr counted]

theorem resumed_backstage_congr (alike : s.backstage keep = t.backstage keep) (c : Cycle)
    (standing : Standing Instance) :
    (s.resumed c standing).backstage keep = (t.resumed c standing).backstage keep := by
  simp only [backstage, mk.injEq] at alike
  obtain ⟨baseline, nextCycle, detected, suspended, counted, -, calls, discarded, pauses,
    completed, -⟩ := alike
  have awake := filter_filter_congr suspended (·.1.id != c.id)
  simp only [backstage, resumed, awakened, List.filter_append, baseline, nextCycle, detected,
    awake, counted, calls, discarded, pauses, completed]

/-- A cycle that is kept is found behind the sink if it is found at all. -/
theorem find?_backstage (s : Session Instance) {id : CycleId} (kept : keep id = true) :
    (s.backstage keep).suspended.find? (·.1.id == id) =
      s.suspended.find? (·.1.id == id) := by
  rw [backstage, List.find?_filter]
  congr 1
  funext entry
  by_cases same : entry.1.id = id
  · simp [same, kept]
  · simp [same]

theorem find?_backstage_congr (alike : s.backstage keep = t.backstage keep) {id : CycleId}
    (kept : keep id = true) :
    s.suspended.find? (·.1.id == id) = t.suspended.find? (·.1.id == id) := by
  rw [← find?_backstage s kept, alike, find?_backstage t kept]

end Congr

theorem resume_detected (setup : Setup Handle Instance) (s : Session Instance)
    (id : CycleId) : (s.resume setup id).detected = s.detected := by
  cases found : s.suspended.find? (·.1.id == id) with
  | none => simp only [resume, found]
  | some entry =>
      simp only [resume, found, proceed_eq]
      exact settle_detected ..

/-- A cycle that is not kept goes on unseen. -/
theorem resume_backstage (setup : Setup Handle Instance) (s : Session Instance)
    {keep : CycleId → Bool} {id : CycleId} (left : keep id = false) :
    (s.resume setup id).backstage keep = s.backstage keep := by
  cases found : s.suspended.find? (·.1.id == id) with
  | none => simp only [resume, found]
  | some entry =>
      obtain ⟨c, standing⟩ := entry
      obtain rfl : c.id = id := by simpa using List.find?_some found
      have own : (standing.calls c.id).filter (·.cycle?.all keep) = [] := by
        apply List.filter_eq_nil_iff.mpr
        intro call member
        simp [standing.calls_cycle? c.id call member, left]
      have awake : (s.suspended.filter (·.1.id != c.id)).filter (keep ·.1.id) =
          s.suspended.filter (keep ·.1.id) := by
        rw [List.filter_filter]
        apply List.filter_congr
        intro other member
        by_cases same : other.1.id = c.id
        · simp [same, left]
        · simp [same]
      simp only [resume, found, proceed_eq]
      cases standing.next setup.sandbox <;>
        simp [backstage, awake, own, left, Progress.standings, Progress.endings]

/-- What a step does behind the sink depends on nothing else, and not on the policy. -/
theorem step_backstage_congr (setup : Setup Handle Instance) (policy other : ReportPolicy)
    {s t : Session Instance} {keep : CycleId → Bool}
    (alike : s.backstage keep = t.backstage keep) {step : Step} (kept : step.isKept keep) :
    (s.step (setup.reporting policy) step).backstage keep =
      (t.step (setup.reporting other) step).backstage keep := by
  cases step with
  | detect reading =>
      have baseline : s.baseline = t.baseline := by
        simpa using congrArg Session.baseline alike
      rcases s.detect_cases reading with ⟨unchanged, nothing⟩ | ⟨text, rfl, changed, created⟩
      · rw [baseline] at unchanged
        simp only [Session.step, nothing, detect_unchanged t unchanged, alike]
      · rw [baseline] at changed
        simp only [Session.step, created, detect_changed t changed]
        exact started_backstage_congr alike text
  | begin id =>
      have detected : s.detected = t.detected := by
        simpa using congrArg Session.detected alike
      simp only [Session.step, begin, detected]
      cases found : t.detected.find? (·.id == id) with
      | none => exact alike
      | some c =>
          have waiting := dequeued_backstage_congr alike id
          simp only [dequeued, detected] at waiting
          simp only [launch_eq, opened_reporting, Setup.opening_reporting]
          exact settle_backstage_congr (opened_backstage_congr waiting setup c) _ _ _ _
  | resume id =>
      simp only [Session.step, resume, find?_backstage_congr alike kept]
      cases found : t.suspended.find? (·.1.id == id) with
      | none => exact alike
      | some entry =>
          obtain ⟨c, standing⟩ := entry
          obtain rfl : c.id = id := by simpa using List.find?_some found
          simp only [proceed_eq]
          exact settle_backstage_congr (resumed_backstage_congr alike c standing) _ _ _ _
  | discard id =>
      have detected : s.detected = t.detected := by
        simpa using congrArg Session.detected alike
      simp only [Session.step, discard, detected]
      cases found : t.detected.find? (·.id == id) with
      | none => exact alike
      | some c =>
          simp only [backstage, mk.injEq] at alike
          simp only [backstage, alike]

section Run

variable {keep : CycleId → Bool} {s t : Session Instance} (settings : Settings)
  (policy other : ReportPolicy)

theorem move_backstage_congr (alike : s.backstage keep = t.backstage keep)
    {m : Move Handle Instance} (kept : m.step.isKept keep) :
    (s.move (settings.reporting policy) m).backstage keep =
      (t.move (settings.reporting other) m).backstage keep :=
  step_backstage_congr (m.setup settings) policy other alike kept

theorem move_backstage (settings : Settings) (s : Session Instance)
    {m : Move Handle Instance} (left : m.step.isKept keep = false) :
    (s.move settings m).backstage keep = s.backstage keep := by
  obtain ⟨assembler, sandbox, step⟩ := m
  cases step with
  | resume id => exact resume_backstage ⟨assembler, sandbox, settings⟩ s left
  | _ => cases left

/-- Behind the sink a run goes as it would without the steps that are left out, under any
policy. -/
theorem foldl_backstage (alike : s.backstage keep = t.backstage keep)
    (moves : List (Move Handle Instance)) :
    (moves.foldl (move (settings.reporting policy)) s).backstage keep =
      ((moves.filter (·.step.isKept keep)).foldl (move (settings.reporting other))
        t).backstage keep := by
  induction moves generalizing s t with
  | nil => exact alike
  | cons m rest ih =>
      cases kept : m.step.isKept keep with
      | true =>
          simp only [List.filter_cons, kept, if_true, List.foldl_cons]
          exact ih (move_backstage_congr settings policy other alike kept)
      | false =>
          simp only [List.filter_cons, kept, Bool.false_eq_true, if_false, List.foldl_cons]
          exact ih ((move_backstage (settings.reporting policy) s kept).trans alike)

theorem created?_backstage (s : Session Instance) (step : Step) :
    (s.backstage keep).created? step = s.created? step := by
  simp only [created?_eq, backstage]

theorem creations_backstage (alike : s.backstage keep = t.backstage keep)
    (moves : List (Move Handle Instance)) :
    creations (settings.reporting policy) s moves =
      creations (settings.reporting other) t (moves.filter (·.step.isKept keep)) := by
  induction moves generalizing s t with
  | nil => rfl
  | cons m rest ih =>
      cases kept : m.step.isKept keep with
      | true =>
          have same : s.created? m.step = t.created? m.step := by
            rw [← created?_backstage s, alike, created?_backstage]
          simp only [List.filter_cons, kept, if_true, creations, same,
            ih (move_backstage_congr settings policy other alike kept)]
      | false =>
          have none : s.created? m.step = none := by
            obtain ⟨assembler, sandbox, step⟩ := m
            cases step with
            | detect reading => cases kept
            | _ => rfl
          simp only [List.filter_cons, kept, Bool.false_eq_true, if_false, creations, none,
            Option.toList_none, List.nil_append,
            ih ((move_backstage (settings.reporting policy) s kept).trans alike)]

end Run

end Session

end Rerun
