import Rerun.Proofs.Desk.Pool
import Rerun.Proofs.Session.Drain

/-! Readings that are served in turn.  Each is carried to its end before the next is taken,
so that cycles end in the order of their detection, and each reports what its own text comes
to. -/

namespace Rerun

variable {Handle Instance : Type}

/-- A step that goes on with what has been detected. -/
def Step.isInner : Step → Bool
  | begin _ | resume _ => true
  | detect _ | discard _ => false

theorem Step.text?_of_isInner {step : Step} (inner : step.isInner) : step.text? = none := by
  cases step with
  | detect reading => cases inner
  | _ => rfl

theorem Step.textsRead_append_of_isInner (steps : List Step) {more : List Step}
    (inner : ∀ step ∈ more, step.isInner) : textsRead (steps ++ more) = textsRead steps := by
  have silent : textsRead more = [] :=
    List.filterMap_eq_nil_iff.mpr fun step member => text?_of_isInner (inner step member)
  unfold textsRead at silent ⊢
  rw [List.filterMap_append, silent, List.append_nil]

namespace Session

section Inner

variable (setup : Setup Handle Instance) (s : Session Instance)

theorem exists_goOn_steps (turns : Nat) :
    ∃ steps : List Step, (∀ step ∈ steps, step.isInner) ∧
      s.goOn setup turns = steps.foldl (Session.step setup) s := by
  induction turns generalizing s with
  | zero => exact ⟨[], by simp, rfl⟩
  | succ turns ih =>
      cases waiting : s.suspended with
      | nil => exact ⟨[], by simp, by simp [goOn, waiting]⟩
      | cons entry rest =>
          obtain ⟨steps, inner, ends⟩ := ih (s.resume setup entry.1.id)
          refine ⟨.resume entry.1.id :: steps, ?_, ?_⟩
          · simpa [Step.isInner] using inner
          · simp only [goOn, waiting, List.foldl_cons]
            exact ends

theorem exists_drain_steps :
    ∃ steps : List Step, (∀ step ∈ steps, step.isInner) ∧
      s.drain setup = steps.foldl (Session.step setup) s := by
  obtain ⟨steps, inner, ends⟩ := exists_goOn_steps setup (s.beginAll setup)
    (pausesLeft setup.sandbox (s.beginAll setup).suspended)
  refine ⟨(s.detected.map (·.id)).map .begin ++ steps, ?_, ?_⟩
  · intro step member
    rcases List.mem_append.mp member with first | second
    · obtain ⟨id, -, rfl⟩ := List.mem_map.mp first
      rfl
    · exact inner step second
  · rw [drain, ends, List.foldl_append, beginAll_eq_beginEach]
    rfl

end Inner

section Effect

variable {setup : Setup Handle Instance} {s t : Session Instance} {step : Step}

theorem Effect.completed_grows (effect : Effect setup s step t) :
    s.completed <+: t.completed := by
  cases effect with
  | idle | started | discarded => exact List.prefix_refl _
  | begun c found =>
      rw [settle_completed]
      exact List.prefix_append _ _
  | resumed c standing found =>
      rw [settle_completed]
      exact List.prefix_append _ _

end Effect

section Steps

variable (setup : Setup Handle Instance) (s : Session Instance)

theorem foldl_completed_grows (steps : List Step) :
    s.completed <+: (steps.foldl (Session.step setup) s).completed := by
  induction steps generalizing s with
  | nil => exact List.prefix_refl _
  | cons step rest ih => exact (step_effect setup s step).completed_grows.trans (ih _)

theorem foldl_nextCycle_of_isInner {steps : List Step} (inner : ∀ step ∈ steps, step.isInner) :
    (steps.foldl (Session.step setup) s).nextCycle = s.nextCycle := by
  induction steps generalizing s with
  | nil => rfl
  | cons step rest ih =>
      have first := (step_effect setup s step).nextCycle
      rw [Step.text?_of_isInner (inner step (by simp))] at first
      exact (ih _ fun other member => inner other (by simp [member])).trans first

end Steps

/-- What a session is like that has served these readings, and none that is missing here. -/
structure Served (setup : Setup Handle Instance) (readings : List (Option String))
    (s : Session Instance) : Prop where
  quiet : s.Quiet
  inOrder : s.InOrder
  isRun : ∃ steps, s = run setup steps ∧ (∀ id, .discard id ∉ steps) ∧
    Step.textsRead steps = readings.filterMap id

section Served

variable {setup : Setup Handle Instance} {readings : List (Option String)}
  {s t : Session Instance}

/-- Of the cycles that are completed in the end, those come first that were completed
before; where there was at most one other, it can only come last. -/
theorem InOrder.of_single (inOrder : s.InOrder) (single : s.detected.length ≤ 1)
    (grown : s.completed <+: t.completed) (count : t.nextCycle = s.nextCycle)
    (quiet : t.Quiet) (all : (t.completed.map (·.1)).Perm (List.range t.nextCycle)) :
    t.InOrder := by
  obtain ⟨added, joined⟩ := grown
  unfold InOrder at inOrder ⊢
  rw [count, ← inOrder, ← joined, List.map_append] at all
  have others : (added.map (·.1)).Perm (s.detected.map (·.id)) :=
    (List.perm_append_left_iff _).mp all
  have same : added.map (·.1) = s.detected.map (·.id) := by
    match waiting : s.detected with
    | [] =>
        rw [waiting] at others
        exact others.eq_nil
    | [c] =>
        rw [waiting] at others
        exact List.perm_singleton.mp others
    | _ :: _ :: _ => simp [waiting] at single
  rw [quiet.1, count, ← inOrder, ← joined, List.map_append, same, List.map_nil,
    List.append_nil]

theorem Served.serve (served : Served setup readings s) (reading : Option String) :
    Served setup (readings ++ [reading]) (s.serve setup reading) := by
  obtain ⟨steps, isRun, kept, read⟩ := served.isRun
  obtain ⟨more, inner, drained⟩ := exists_drain_steps setup (s.detect reading).2
  have quiet : (s.serve setup reading).Quiet := drain_quiet setup _
  have allSteps : s.serve setup reading = run setup (steps ++ [.detect reading] ++ more) := by
    rw [Session.serve, drained, isRun]
    simp only [run, List.foldl_append, List.foldl_cons]
    rfl
  have keeps : ∀ id, .discard id ∉ steps ++ [.detect reading] ++ more := by
    intro id member
    rcases List.mem_append.mp member with first | later
    · rcases List.mem_append.mp first with before | here
      · exact kept id before
      · cases List.mem_singleton.mp here
    · cases inner _ later
  refine ⟨quiet, ?_, _, allSteps, keeps, ?_⟩
  · have all := quiet.completed_perm (allSteps ▸ run_counted setup _)
      (allSteps ▸ run_discarded_eq_nil setup keeps)
    refine (served.inOrder.detect reading).of_single ?_ ?_ ?_ quiet all
    · rw [detect_snd_detected, served.quiet.1]
      cases (s.detect reading).1 <;> simp
    · rw [Session.serve, drained]
      exact foldl_completed_grows setup _ more
    · rw [Session.serve, drained]
      exact foldl_nextCycle_of_isInner setup _ inner
  · rw [Step.textsRead_append_of_isInner _ inner, Step.textsRead_concat, read,
      List.filterMap_append]
    cases reading <;> rfl

theorem foldl_served (setup : Setup Handle Instance) (readings : List (Option String)) :
    Served setup readings (readings.foldl (Session.serve setup) {}) := by
  induction readings using List.reverseRecOn with
  | nil => exact ⟨⟨rfl, rfl⟩, rfl, [], rfl, by simp, rfl⟩
  | append_singleton readings reading ih =>
      rw [List.foldl_append, List.foldl_cons, List.foldl_nil]
      exact ih.serve reading

/-- Every change of the text is reported in its turn, under either policy. -/
theorem Served.delivered_eq (served : Served setup readings s) :
    s.delivered =
      (changes ("" :: readings.filterMap id)).zipIdx.map fun (text, id) =>
        (id, reference setup.assembler setup.sandbox setup.settings text) := by
  obtain ⟨steps, rfl, -, read⟩ := served.isRun
  rw [served.inOrder.delivered_eq served.quiet.1, Step.textsStarted, read]

theorem Served.completed_eq (served : Served setup readings s) :
    s.completed = s.delivered := by
  obtain ⟨steps, rfl, -, -⟩ := served.isRun
  exact (served.inOrder.delivered_eq_completed served.quiet.1).symm

theorem Served.ofCycle_calls (served : Served setup readings s) {cycle : CycleId} {text : String}
    (own : (changes ("" :: readings.filterMap id))[cycle]? = some text) :
    Call.ofCycle cycle s.calls = (setup.trial cycle text).calls := by
  have member : (cycle, reference setup.assembler setup.sandbox setup.settings text) ∈
      s.completed := by
    rw [served.completed_eq, served.delivered_eq]
    exact List.mem_map.mpr ⟨(text, cycle), List.mk_mem_zipIdx_iff_getElem?.mpr own, rfl⟩
  obtain ⟨steps, rfl, -, read⟩ := served.isRun
  obtain ⟨other, started, onCourse⟩ := (run_faithful setup steps).completed _ member
  rw [Step.textsStarted, read, own] at started
  cases started
  have calls := onCourse.calls
  rwa [List.append_nil] at calls

theorem Served.ofCycle_calls_eq_nil (served : Served setup readings s) {cycle : CycleId}
    (unborn : (changes ("" :: readings.filterMap id)).length ≤ cycle) :
    Call.ofCycle cycle s.calls = [] := by
  obtain ⟨steps, rfl, -, read⟩ := served.isRun
  apply (run_faithful setup steps).unborn
  rw [(run_follows setup steps).count, Step.textsStarted, read]
  exact unborn

end Served

end Session

end Rerun
