import Rerun.Proofs.Session.Progress

/-! What a step does to a session.  Every step falls under one of five effects; what
holds of all runs is proved effect by effect. -/

namespace Rerun

variable {Handle Instance : Type}

def Stats.reported (stats : Stats) (stale : Bool) : Stats :=
  if stale then { stats with droppedReports := stats.droppedReports + 1 }
  else { stats with reports := stats.reports + 1 }

@[simp] theorem Stats.reported_cyclesStarted (stats : Stats) (stale : Bool) :
    (stats.reported stale).cyclesStarted = stats.cyclesStarted := by
  cases stale <;> rfl

namespace Session

theorem finish_eq (settings : Settings) (s : Session Instance) (c : Cycle)
    (outcome : Outcome) :
    let stale := isStale settings.reportPolicy s.lastReported c.id
    s.finish settings c outcome =
      { s with
        stats := s.stats.reported stale
        lastReported :=
          if stale then s.lastReported else some (s.lastReported.elim c.id (max c.id))
        completed := s.completed ++ [(c.id, outcome)]
        delivered := s.delivered ++ if stale then [] else [(c.id, outcome)]
        log := (s.finish settings c outcome).log } := by
  intro stale
  cases dropped : stale with
  | true =>
      have held : isStale settings.reportPolicy s.lastReported c.id = true := dropped
      simp [finish, advance, report, note, Stats.reported, held]
  | false =>
      have kept : isStale settings.reportPolicy s.lastReported c.id = false := dropped
      cases outcome <;> simp [finish, advance, report, note, Stats.reported, kept]

section Settle

variable (settings : Settings) (s : Session Instance) (c : Cycle) (p : Progress Instance)

/-! Settling a cycle touches what is suspended, completed and reported, and nothing
else. -/

@[simp] theorem settle_baseline : (s.settle settings c p).baseline = s.baseline := by
  cases p with
  | paused standing => rfl
  | ended outcome => rw [settle, finish_eq]

@[simp] theorem settle_nextCycle : (s.settle settings c p).nextCycle = s.nextCycle := by
  cases p with
  | paused standing => rfl
  | ended outcome => rw [settle, finish_eq]

@[simp] theorem settle_detected : (s.settle settings c p).detected = s.detected := by
  cases p with
  | paused standing => rfl
  | ended outcome => rw [settle, finish_eq]

@[simp] theorem settle_discarded : (s.settle settings c p).discarded = s.discarded := by
  cases p with
  | paused standing => rfl
  | ended outcome => rw [settle, finish_eq]

@[simp] theorem settle_calls : (s.settle settings c p).calls = s.calls := by
  cases p with
  | paused standing => rfl
  | ended outcome => rw [settle, finish_eq]

@[simp] theorem settle_cyclesStarted :
    (s.settle settings c p).stats.cyclesStarted = s.stats.cyclesStarted := by
  cases p with
  | paused standing => rfl
  | ended outcome =>
      rw [settle, finish_eq]
      exact s.stats.reported_cyclesStarted _

@[simp] theorem settle_suspended :
    (s.settle settings c p).suspended = s.suspended ++ p.standings c := by
  cases p with
  | paused standing => rfl
  | ended outcome =>
      rw [settle, finish_eq]
      exact (List.append_nil _).symm

@[simp] theorem settle_completed :
    (s.settle settings c p).completed = s.completed ++ p.endings c.id := by
  cases p with
  | paused standing => exact (List.append_nil _).symm
  | ended outcome =>
      rw [settle, finish_eq]
      rfl

end Settle

end Session

namespace Session

def started (s : Session Instance) (text : String) : Session Instance :=
  { s with
    baseline := ⟨text⟩
    nextCycle := s.nextCycle + 1
    detected := s.detected ++ [⟨s.nextCycle, text, .assembling⟩]
    stats := { s.stats with cyclesStarted := s.stats.cyclesStarted + 1 }
    log := (s.detect (some text)).2.log }

/-- A reading that is missing, or is the baseline, changes nothing at all. -/
theorem detect_unchanged (s : Session Instance) {reading : Option String}
    (unchanged : ∀ text ∈ reading, text = s.baseline.text) :
    s.detect reading = (none, s) := by
  cases reading with
  | none => rfl
  | some text => simp [detect, Baseline.observe, unchanged text rfl]

theorem detect_changed (s : Session Instance) {text : String}
    (changed : text ≠ s.baseline.text) :
    s.detect (some text) = (some ⟨s.nextCycle, text, .assembling⟩, s.started text) := by
  simp [started, detect, Baseline.observe, Ne.symm changed, note, advance]

theorem detect_cases (s : Session Instance) (reading : Option String) :
    (∀ text ∈ reading, text = s.baseline.text) ∧ s.detect reading = (none, s) ∨
    ∃ text, reading = some text ∧ text ≠ s.baseline.text ∧
      s.detect reading = (some ⟨s.nextCycle, text, .assembling⟩, s.started text) := by
  cases reading with
  | none => exact .inl ⟨by simp, rfl⟩
  | some text =>
      by_cases same : text = s.baseline.text
      · have unchanged : ∀ other ∈ some text, other = s.baseline.text := by simpa using same
        exact .inl ⟨unchanged, detect_unchanged s unchanged⟩
      · exact .inr ⟨text, rfl, same, detect_changed s same⟩

def dequeued (s : Session Instance) (id : CycleId) : Session Instance :=
  { s with detected := s.detected.filter (·.id != id) }

def awakened (s : Session Instance) (id : CycleId) : Session Instance :=
  { s with suspended := s.suspended.filter (·.1.id != id) }

/-- The session once a cycle has gone on from its standing, up to its next pause or its
end. -/
def resumed (s : Session Instance) (c : Cycle) (standing : Standing Instance) :
    Session Instance :=
  { s.awakened c.id with
    calls := s.calls ++ standing.calls c.id
    log := s.log ++ standing.records }

/-- What a step makes of a session. -/
inductive Effect (setup : Setup Handle Instance) (s : Session Instance) :
    Step → Session Instance → Prop
  | idle (step : Step) (unchanged : ∀ text ∈ step.text?, text = s.baseline.text) :
      Effect setup s step s
  | started (text : String) (changed : text ≠ s.baseline.text) :
      Effect setup s (.detect (some text)) (s.started text)
  | discarded (c : Cycle) (found : s.detected.find? (·.id == c.id) = some c) :
      Effect setup s (.discard c.id)
        { s.dequeued c.id with discarded := s.discarded ++ [c.id] }
  | begun (c : Cycle) (found : s.detected.find? (·.id == c.id) = some c) :
      Effect setup s (.begin c.id)
        (((s.dequeued c.id).opened setup c).settle setup.settings
          { c with phase := (setup.opening c.id c.text).phase }
          (setup.opening c.id c.text).progress)
  | resumed (c : Cycle) (standing : Standing Instance)
      (found : s.suspended.find? (·.1.id == c.id) = some (c, standing)) :
      Effect setup s (.resume c.id)
        ((s.resumed c standing).settle setup.settings c (standing.next setup.sandbox))

theorem step_effect (setup : Setup Handle Instance) (s : Session Instance) (step : Step) :
    Effect setup s step (s.step setup step) := by
  cases step with
  | detect reading =>
      rcases s.detect_cases reading with ⟨unchanged, nothing⟩ | ⟨text, rfl, changed, created⟩
      · simp only [Session.step, nothing]
        exact .idle _ unchanged
      · simp only [Session.step, created]
        exact .started text changed
  | begin id =>
      cases found : s.detected.find? (·.id == id) with
      | none =>
          simp only [Session.step, begin, found]
          exact .idle _ (by simp [Step.text?])
      | some c =>
          obtain rfl : c.id = id := by simpa using List.find?_some found
          simp only [Session.step, begin, found, launch_eq]
          exact .begun c found
  | resume id =>
      cases found : s.suspended.find? (·.1.id == id) with
      | none =>
          simp only [Session.step, resume, found]
          exact .idle _ (by simp [Step.text?])
      | some entry =>
          obtain ⟨c, standing⟩ := entry
          obtain rfl : c.id = id := by simpa using List.find?_some found
          simp only [Session.step, resume, found, proceed_eq]
          exact .resumed c standing found
  | discard id =>
      cases found : s.detected.find? (·.id == id) with
      | none =>
          simp only [Session.step, discard, found]
          exact .idle _ (by simp [Step.text?])
      | some c =>
          obtain rfl : c.id = id := by simpa using List.find?_some found
          simp only [Session.step, discard, found]
          exact .discarded c found

end Session

end Rerun
