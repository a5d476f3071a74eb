import Rerun.Proofs.Session.Hung

/-! The pool of a session: every cycle that waits begins, the oldest first.  Behind the
sink it makes no difference whether a text is detected before the pool is run or after. -/

namespace Rerun

variable {Handle Instance : Type}

theorem Stats.eq_of_unreported {first second : Stats}
    (same : first.unreported = second.unreported) (reports : first.reports = second.reports)
    (dropped : first.droppedReports = second.droppedReports) : first = second := by
  cases first
  cases second
  simp_all [unreported]

namespace Session

/-- Sessions that cannot be told apart behind the sink. -/
def Alike (s t : Session Instance) : Prop :=
  s.backstage (fun _ => true) = t.backstage (fun _ => true)

section Alike

variable {s t u : Session Instance}

theorem Alike.refl (s : Session Instance) : s.Alike s := rfl

theorem Alike.symm (alike : s.Alike t) : t.Alike s := Eq.symm alike

theorem Alike.trans (first : s.Alike t) (second : t.Alike u) : s.Alike u :=
  Eq.trans first second

theorem Alike.detected (alike : s.Alike t) : s.detected = t.detected := by
  simpa using congrArg Session.detected alike

theorem Alike.step (alike : s.Alike t) (setup : Setup Handle Instance) (step : Step) :
    (s.step setup step).Alike (t.step setup step) := by
  have kept : step.isKept fun _ => true := by cases step <;> rfl
  exact step_backstage_congr setup setup.settings.reportPolicy setup.settings.reportPolicy
    alike kept

theorem Alike.steps (alike : s.Alike t) (setup : Setup Handle Instance) (steps : List Step) :
    (steps.foldl (Session.step setup) s).Alike (steps.foldl (Session.step setup) t) := by
  induction steps generalizing s t with
  | nil => exact alike
  | cons step rest ih => exact ih (alike.step setup step)

/-- What is left to tell sessions apart is what was written, as their reports follow from
what was completed. -/
theorem Alike.eq_except_log (alike : s.Alike t) {settings : Settings}
    (reported : s.Reported settings) (others : t.Reported settings) (balanced : s.Balanced)
    (otherBalanced : t.Balanced) : { s with log := [] } = { t with log := [] } := by
  have same := alike
  rw [Alike, backstage_all, backstage_all] at same
  simp only [mk.injEq] at same
  obtain ⟨baseline, nextCycle, detected, suspended, counted, -, calls, discarded, pauses,
    completed, -, -⟩ := same
  have last : s.lastReported = t.lastReported := by
    rw [reported.newest, others.newest, completed]
  have delivered : s.delivered = t.delivered := by
    rw [reported.delivered, others.delivered, completed]
  have reports : s.stats.reports = t.stats.reports := by
    rw [balanced.delivered, otherBalanced.delivered, delivered]
  have dropped : s.stats.droppedReports = t.stats.droppedReports := by
    have first := balanced.completed
    have second := otherBalanced.completed
    rw [completed] at first
    omega
  simp only [baseline, nextCycle, detected, suspended,
    Stats.eq_of_unreported counted reports dropped, last, calls, discarded, pauses, completed,
    delivered]

end Alike

section Begin

variable (setup : Setup Handle Instance) (s : Session Instance)

theorem begin_eq_of_find? {c : Cycle} (found : s.detected.find? (·.id == c.id) = some c) :
    s.begin setup c.id =
      ((s.dequeued c.id).opened setup c).settle setup.settings
        { c with phase := (setup.opening c.id c.text).phase }
        (setup.opening c.id c.text).progress := by
  simp only [begin, found, launch_eq]
  rfl

theorem begin_nextCycle (id : CycleId) : (s.begin setup id).nextCycle = s.nextCycle :=
  (step_effect setup s (.begin id)).nextCycle

theorem begin_detected (id : CycleId) :
    (s.begin setup id).detected = s.detected.filter (·.id != id) := by
  cases found : s.detected.find? (·.id == id) with
  | none =>
      have absent := List.find?_eq_none.mp found
      simp only [begin, found]
      exact (List.filter_eq_self.mpr fun c member => by simpa using absent c member).symm
  | some c =>
      obtain rfl : c.id = id := by simpa using List.find?_some found
      rw [begin_eq_of_find? setup s found]
      exact settle_detected ..

def beginEach (ids : List CycleId) : Session Instance :=
  (ids.map Step.begin).foldl (Session.step setup) s

theorem beginAll_eq_beginEach :
    s.beginAll setup = s.beginEach setup (s.detected.map (·.id)) := by
  rw [beginAll, beginEach, List.foldl_map, List.foldl_map, List.foldl_map]
  rfl

end Begin

section Started

variable (setup : Setup Handle Instance) (s : Session Instance) (text : String)

theorem dequeued_started_alike {id : CycleId} (older : id ≠ s.nextCycle) :
    ((s.started text).dequeued id).Alike ((s.dequeued id).started text) := by
  simp [Alike, backstage, Session.started, dequeued, Ne.symm older]

theorem opened_started_alike (c : Cycle) :
    ((s.started text).opened setup c).Alike ((s.opened setup c).started text) := by
  have counted (stats : Stats) (phase : Phase) :
      { stats with cyclesStarted := stats.cyclesStarted + 1 }.opened phase =
        { stats.opened phase with
          cyclesStarted := (stats.opened phase).cyclesStarted + 1 } := by
    cases phase <;> rfl
  simp [Alike, backstage, Session.started, opened, created, counted]

theorem settle_started_alike (settings : Settings) (c : Cycle) (p : Progress Instance) :
    ((s.started text).settle settings c p).Alike ((s.settle settings c p).started text) := by
  simp [Alike, backstage, Session.started, Stats.unreported, settle_assemblies,
    settle_executions]

/-- A cycle that waits begins alike whether or not one more is detected before. -/
theorem begin_started_alike {id : CycleId} (older : id ≠ s.nextCycle) :
    ((s.started text).begin setup id).Alike ((s.begin setup id).started text) := by
  cases found : s.detected.find? (·.id == id) with
  | none =>
      have absent : (s.started text).detected.find? (·.id == id) = none := by
        simp [Session.started, found, Ne.symm older]
      simp only [begin, found, absent]
      exact Alike.refl _
  | some c =>
      obtain rfl : c.id = id := by simpa using List.find?_some found
      have still : (s.started text).detected.find? (·.id == c.id) = some c := by
        simp [Session.started, found]
      rw [begin_eq_of_find? setup s found, begin_eq_of_find? setup _ still]
      have waiting := dequeued_started_alike s text older
      have opened : (((s.started text).dequeued c.id).opened setup c).Alike
          (((s.dequeued c.id).opened setup c).started text) :=
        (opened_backstage_congr waiting setup c).trans
          (opened_started_alike setup (s.dequeued c.id) text c)
      exact (settle_backstage_congr opened _ _ _ _).trans (settle_started_alike ..)

theorem beginEach_started_alike {ids : List CycleId} (older : s.nextCycle ∉ ids) :
    ((s.started text).beginEach setup ids).Alike ((s.beginEach setup ids).started text) := by
  induction ids generalizing s with
  | nil => exact Alike.refl _
  | cons id ids ih =>
      rw [List.mem_cons, not_or] at older
      have first := begin_started_alike setup s text (Ne.symm older.1)
      have rest := ih (s.begin setup id) (by rw [begin_nextCycle]; exact older.2)
      exact (first.steps setup (ids.map .begin)).trans rest

end Started

section BeginAll

variable (setup : Setup Handle Instance) (s : Session Instance)

theorem beginEach_baseline (ids : List CycleId) :
    (s.beginEach setup ids).baseline.text = s.baseline.text := by
  have baseline := foldl_baseline setup s (ids.map .begin)
  have unread : Step.textsRead (ids.map .begin) = [] := by
    simp [Step.textsRead, Step.text?]
  rw [unread] at baseline
  exact baseline

theorem beginEach_nextCycle (ids : List CycleId) :
    (s.beginEach setup ids).nextCycle = s.nextCycle := by
  induction ids generalizing s with
  | nil => rfl
  | cons id ids ih => exact (ih (s.begin setup id)).trans (begin_nextCycle setup s id)

theorem beginEach_detected (ids : List CycleId) :
    (s.beginEach setup ids).detected = s.detected.filter (·.id ∉ ids) := by
  induction ids generalizing s with
  | nil => exact (List.filter_eq_self.mpr fun _ _ => rfl).symm
  | cons id ids ih =>
      refine (ih (s.begin setup id)).trans ?_
      rw [begin_detected, List.filter_filter]
      apply List.filter_congr
      intro c _
      by_cases same : c.id = id <;> simp [same]

theorem beginAll_detected : (s.beginAll setup).detected = [] := by
  rw [beginAll_eq_beginEach, beginEach_detected]
  apply List.filter_eq_nil_iff.mpr
  intro c member
  simp only [decide_eq_true_eq, not_not]
  exact List.mem_map_of_mem member

theorem beginAll_of_detected_eq_nil (idle : s.detected = []) : s.beginAll setup = s := by
  rw [beginAll, idle]
  rfl

@[simp] theorem beginAll_beginAll : (s.beginAll setup).beginAll setup = s.beginAll setup :=
  beginAll_of_detected_eq_nil setup _ (beginAll_detected setup s)

/-- Once the pool is run, it makes no difference whether it was run before a reading as
well. -/
theorem beginAll_detect_alike (counted : s.Counted) (reading : Option String) :
    ((s.detect reading).2.beginAll setup).Alike
      (((s.beginAll setup).detect reading).2.beginAll setup) := by
  have baseline : (s.beginAll setup).baseline.text = s.baseline.text := by
    rw [beginAll_eq_beginEach, beginEach_baseline]
  rcases s.detect_cases reading with ⟨unchanged, nothing⟩ | ⟨text, rfl, changed, created⟩
  · rw [← baseline] at unchanged
    rw [nothing, detect_unchanged _ unchanged, beginAll_beginAll]
    exact Alike.refl _
  · rw [← baseline] at changed
    rw [created, detect_changed _ changed]
    have older : s.nextCycle ∉ s.detected.map (·.id) := by
      intro member
      obtain ⟨c, inside, same⟩ := List.mem_map.mp member
      exact Nat.lt_irrefl _ (same ▸ counted.mem_ids.mp (mem_ids_of_detected inside))
    have earlier := beginEach_started_alike setup s text older
    -- on either side the new cycle is the last to begin
    have last := earlier.step setup (.begin s.nextCycle)
    have joined : (s.started text).beginAll setup =
        ((s.started text).beginEach setup (s.detected.map (·.id))).begin setup s.nextCycle := by
      simp [beginAll_eq_beginEach, beginEach, Session.started, Session.step]
    have alone : ((s.beginAll setup).started text).beginAll setup =
        ((s.beginAll setup).started text).begin setup s.nextCycle := by
      have next : (s.beginAll setup).nextCycle = s.nextCycle := by
        rw [beginAll_eq_beginEach, beginEach_nextCycle]
      have waiting : ((s.beginAll setup).started text).detected.map (·.id) =
          [s.nextCycle] := by
        simp [Session.started, beginAll_detected, next]
      rw [beginAll, waiting]
      rfl
    rw [joined, alone, beginAll_eq_beginEach]
    exact last

theorem begin_completed {c : Cycle} (found : s.detected.find? (·.id == c.id) = some c)
    (unpaused : (s.begin setup c.id).pauses = []) :
    (s.begin setup c.id).completed.map (·.1) = s.completed.map (·.1) ++ [c.id] := by
  rw [begin_eq_of_find? setup s found] at unpaused ⊢
  rw [settle_pauses] at unpaused
  rw [settle_completed, List.map_append]
  cases far : (setup.opening c.id c.text).progress with
  | paused standing => simp [far, Progress.standings] at unpaused
  | ended outcome => rfl

theorem foldl_pauses_subset (steps : List Step) :
    s.pauses ⊆ (steps.foldl (Session.step setup) s).pauses := by
  induction steps generalizing s with
  | nil => exact List.Subset.refl _
  | cons step rest ih => exact List.Subset.trans (step_effect setup s step).pauses_subset (ih _)

end BeginAll

theorem run_suspended_eq_nil (setup : Setup Handle Instance) {steps : List Step}
    (unpaused : (run setup steps).pauses = []) : (run setup steps).suspended = [] := by
  apply List.eq_nil_iff_forall_not_mem.mpr
  intro entry member
  rw [← play_moves] at unpaused member
  have paused := play_hangs_paused setup.settings (setup.moves steps) ⟨entry, member, rfl⟩
  rw [unpaused] at paused
  cases paused

/-- Cycles are completed in the order of their detection, and wait in that order. -/
def InOrder (s : Session Instance) : Prop :=
  s.completed.map (·.1) ++ s.detected.map (·.id) = List.range s.nextCycle

section InOrder

variable {s : Session Instance} (setup : Setup Handle Instance)

theorem InOrder.detect (inOrder : s.InOrder) (reading : Option String) :
    (s.detect reading).2.InOrder := by
  rcases s.detect_cases reading with ⟨-, nothing⟩ | ⟨text, -, -, created⟩
  · rw [nothing]
    exact inOrder
  · rw [created, InOrder]
    simp only [Session.started, List.map_append, List.map_singleton]
    rw [← List.append_assoc, inOrder, List.range_succ]

theorem InOrder.begin {c : Cycle} {rest : List Cycle} (inOrder : s.InOrder)
    (waiting : s.detected = c :: rest) (unpaused : (s.begin setup c.id).pauses = []) :
    (s.begin setup c.id).InOrder ∧ (s.begin setup c.id).detected = rest := by
  have distinct : (s.detected.map (·.id)).Nodup := by
    have sublist := List.sublist_append_right (s.completed.map (·.1)) (s.detected.map (·.id))
    rw [inOrder] at sublist
    exact sublist.nodup List.nodup_range
  have later : (s.begin setup c.id).detected = rest := by
    rw [waiting, List.map_cons, List.nodup_cons] at distinct
    rw [begin_detected, waiting, List.filter_cons_of_neg (by simp)]
    apply List.filter_eq_self.mpr
    intro other member
    have different : other.id ≠ c.id := fun same =>
      distinct.1 (same ▸ List.mem_map_of_mem member)
    simpa using different
  have found : s.detected.find? (·.id == c.id) = some c := by simp [waiting]
  refine ⟨?_, later⟩
  rw [InOrder, begin_completed setup s found unpaused, later, begin_nextCycle, ← inOrder,
    waiting]
  simp

theorem InOrder.beginEach {waiting : List Cycle} (inOrder : s.InOrder)
    (detected : s.detected = waiting)
    (unpaused : (s.beginEach setup (waiting.map (·.id))).pauses = []) :
    (s.beginEach setup (waiting.map (·.id))).InOrder := by
  induction waiting generalizing s with
  | nil => exact inOrder
  | cons c rest ih =>
      have first : (s.begin setup c.id).pauses = [] := by
        have grown := foldl_pauses_subset setup (s.begin setup c.id)
          ((rest.map (·.id)).map .begin)
        exact List.subset_nil.mp (unpaused ▸ grown)
      obtain ⟨next, later⟩ := inOrder.begin setup detected first
      exact ih next later unpaused

theorem InOrder.beginAll (inOrder : s.InOrder) (unpaused : (s.beginAll setup).pauses = []) :
    (s.beginAll setup).InOrder := by
  rw [beginAll_eq_beginEach] at unpaused ⊢
  exact inOrder.beginEach setup rfl unpaused

end InOrder

end Session

end Rerun
