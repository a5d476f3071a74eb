import Rerun.Proofs.Session.Census
import Rerun.Proofs.Session.Leaders

/-! What reaches the sink is settled by the order of completions: all of them, or the
leaders among them. -/

namespace Rerun

variable {Handle Instance : Type}

/-- What a policy lets through of a sequence of completions. -/
def ReportPolicy.admitted : ReportPolicy → List Completion → List Completion
  | lastCompleted, entries => entries
  | latestStarted, entries => leaders entries

private theorem max?_concat (ids : List CycleId) (id : CycleId) :
    (ids ++ [id]).max? = some (ids.max?.elim id (max id)) := by
  cases ids with
  | nil => rfl
  | cons head tail =>
      rw [List.cons_append, List.max?_cons', List.max?_cons', List.foldl_append]
      exact congrArg some (Nat.max_comm _ _)

private theorem any_max?_eq_isLate (entries : List Completion) (id : CycleId) :
    (entries.map (·.1)).max?.any (id < ·) = Completion.isLate entries id := by
  cases greatest : (entries.map (·.1)).max? with
  | none =>
      have empty : entries = [] := by simpa using List.max?_eq_none_iff.mp greatest
      rw [empty]
      rfl
  | some newest =>
      obtain ⟨member, bound⟩ := List.max?_eq_some_iff.mp greatest
      obtain ⟨entry, inside, rfl⟩ := List.mem_map.mp member
      by_cases behind : id < entry.1
      · have late : Completion.isLate entries id = true :=
          List.any_eq_true.mpr ⟨entry, inside, decide_eq_true behind⟩
        simp [late, behind]
      · have timely : Completion.isLate entries id = false := by
          apply List.any_eq_false.mpr
          intro other present
          have below := bound other.1 (List.mem_map_of_mem present)
          simpa using Nat.le_trans below (Nat.le_of_not_lt behind)
        simp [timely, behind]

theorem leaders_max? (entries : List Completion) :
    ((leaders entries).map (·.1)).max? = (entries.map (·.1)).max? := by
  induction entries using List.reverseRecOn with
  | nil => rfl
  | append_singleton entries last ih =>
      have late := any_max?_eq_isLate entries last.1
      rw [leaders_concat, List.map_append, List.map_append, List.map_singleton, max?_concat]
      cases timely : Completion.isLate entries last.1 with
      | false => rw [if_neg (by simp), List.map_singleton, max?_concat, ih]
      | true =>
          rw [timely] at late
          obtain ⟨newest, greatest, ahead⟩ := (Option.any_eq_true _ _).mp late
          have behind : last.1 < newest := of_decide_eq_true ahead
          rw [if_pos rfl, List.map_nil, List.append_nil, ih, greatest, Option.elim_some,
            Nat.max_eq_right (Nat.le_of_lt behind)]

theorem ReportPolicy.admitted_max? (policy : ReportPolicy) (entries : List Completion) :
    ((policy.admitted entries).map (·.1)).max? = (entries.map (·.1)).max? := by
  cases policy with
  | lastCompleted => rfl
  | latestStarted => exact leaders_max? entries

namespace Session

/-- The newest report is the newest completion, and the sink has had what the policy
lets through. -/
structure Reported (settings : Settings) (s : Session Instance) : Prop where
  newest : s.lastReported = (s.completed.map (·.1)).max?
  delivered : s.delivered = settings.reportPolicy.admitted s.completed

theorem Reported.finish {settings : Settings} {s : Session Instance}
    (reported : s.Reported settings) (c : Cycle) (outcome : Outcome) :
    (s.finish settings c outcome).Reported settings := by
  have late : s.lastReported.any (c.id < ·) = Completion.isLate s.completed c.id := by
    rw [reported.newest, any_max?_eq_isLate]
  rw [finish_eq]
  constructor
  · simp only [List.map_append, List.map_singleton, max?_concat, ← reported.newest]
    split
    next stale =>
        -- a dropped report is older than the newest one, which stays the newest
        have overtaken := (Bool.and_eq_true_iff.mp stale).2
        obtain ⟨newest, last, ahead⟩ := (Option.any_eq_true _ _).mp overtaken
        have behind : c.id < newest := of_decide_eq_true ahead
        rw [last, Option.elim_some, Nat.max_eq_right (Nat.le_of_lt behind)]
    next => rfl
  · cases policy : settings.reportPolicy with
    | lastCompleted => simp [isStale, reported.delivered, policy, ReportPolicy.admitted]
    | latestStarted =>
        simp [isStale, late, reported.delivered, policy, ReportPolicy.admitted, leaders_concat]

theorem Reported.settle {settings : Settings} {s : Session Instance}
    (reported : s.Reported settings) (c : Cycle) (p : Progress Instance) :
    (s.settle settings c p).Reported settings := by
  cases p with
  | paused standing => exact ⟨reported.newest, reported.delivered⟩
  | ended outcome => exact reported.finish c outcome

theorem Effect.reported {setup : Setup Handle Instance} {s t : Session Instance}
    {step : Step} (effect : Effect setup s step t) (reported : s.Reported setup.settings) :
    t.Reported setup.settings := by
  have newest := reported.newest
  have delivered := reported.delivered
  cases effect with
  | idle => exact reported
  | started text changed => exact ⟨newest, delivered⟩
  | discarded c found => exact ⟨newest, delivered⟩
  | begun c found =>
      have opened : ((s.dequeued c.id).opened setup c).Reported setup.settings :=
        ⟨newest, delivered⟩
      exact opened.settle _ _
  | resumed c standing found =>
      have awake : (s.resumed c standing).Reported setup.settings := ⟨newest, delivered⟩
      exact awake.settle _ _

theorem play_reported (settings : Settings) (moves : List (Move Handle Instance)) :
    (play settings moves).Reported settings := by
  induction moves using List.reverseRecOn with
  | nil =>
      refine ⟨rfl, ?_⟩
      cases policy : settings.reportPolicy <;> rfl
  | append_singleton moves m ih =>
      rw [play_concat]
      exact (step_effect ⟨m.assembler, m.sandbox, settings⟩ _ m.step).reported ih

theorem run_reported (setup : Setup Handle Instance) (steps : List Step) :
    (run setup steps).Reported setup.settings := by
  rw [← play_moves]
  exact play_reported setup.settings (setup.moves steps)

end Session

namespace Screen

theorem showing_concat (errorPrefix : String) (reports : List Completion) (entry : Completion) :
    showing errorPrefix (reports ++ [entry]) = (showing errorPrefix reports).report entry.2 := by
  simp [showing]

@[simp] theorem showing_errorPrefix (errorPrefix : String) (reports : List Completion) :
    (showing errorPrefix reports).errorPrefix = errorPrefix := by
  induction reports using List.reverseRecOn with
  | nil => rfl
  | append_singleton reports entry ih =>
      rw [showing_concat]
      exact ih

theorem showing_writes (errorPrefix : String) (reports : List Completion) :
    (showing errorPrefix reports).writes = reports.length := by
  induction reports using List.reverseRecOn with
  | nil => rfl
  | append_singleton reports entry ih =>
      rw [showing_concat, List.length_append]
      exact congrArg (· + 1) ih

/-- A surface is blank before the first report, and then shows the last one. -/
theorem showing_content (errorPrefix : String) (reports : List Completion) :
    (showing errorPrefix reports).content =
      reports.getLast?.elim ⟨"", false⟩ (·.2.render errorPrefix) := by
  induction reports using List.reverseRecOn with
  | nil => rfl
  | append_singleton reports entry ih =>
      rw [showing_concat, report, List.getLast?_concat, showing_errorPrefix]
      rfl

end Screen

namespace Session

/-- Where late reports are dropped, the order of completions has no influence on what is
shown: it is always the completion of the newest cycle. -/
theorem newest_completion_is_shown (settings : Settings)
    (latest : settings.reportPolicy = .latestStarted)
    (moves : List (Move Handle Instance)) :
    let s := play settings moves
    (s.delivered.map (·.1)).Pairwise (· < ·) ∧
    (s.delivered = [] ↔ s.completed = []) ∧
    (∀ last, s.delivered.getLast? = some last → Completion.IsNewest s.completed last) ∧
    ∀ others : List (Move Handle Instance),
      let t := play settings others
      (∀ entry, entry ∈ s.completed ↔ entry ∈ t.completed) →
      (s.screen settings.errorPrefix).content = (t.screen settings.errorPrefix).content := by
  have isLeaders : ∀ moves : List (Move Handle Instance),
      (play settings moves).delivered = leaders (play settings moves).completed := by
    intro moves
    rw [(play_reported settings moves).delivered, latest]
    rfl
  have distinct := fun moves : List (Move Handle Instance) =>
    (play_counted settings moves).completed_nodup
  refine ⟨?_, ?_, ?_, ?_⟩
  · rw [isLeaders]
    exact leaders_increasing (distinct moves)
  · rw [isLeaders]
    exact leaders_eq_nil_iff _
  · intro last final
    rw [isLeaders] at final
    exact leaders_getLast?_newest (distinct moves) final
  · intro others t same
    have sameLast : (play settings moves).delivered.getLast? = t.delivered.getLast? := by
      rw [isLeaders, isLeaders]
      exact leaders_getLast?_congr (distinct moves) (distinct others) same
    simp only [screen, Screen.showing_content, sameLast]

/-- A cycle that finishes after a newer one leaves no trace, as if it had finished
before it. -/
theorem newest_completion_is_shown_overtaken :
    let setup := Setup.leisurely .latestStarted
    let started : List Step := [.detect (some "a"), .detect (some ""), .begin 0]
    let overtaken := setup.moves (started ++ [.begin 1, .resume 0])
    let inOrder := setup.moves (started ++ [.resume 0, .begin 1])
    setup.settings.reportPolicy = .latestStarted ∧
    (play setup.settings overtaken).delivered = [(1, .ok .void)] ∧
    (play setup.settings inOrder).delivered = [(0, .ok .void), (1, .ok .void)] ∧
    ((play setup.settings overtaken).screen setup.settings.errorPrefix).content =
      ((play setup.settings inOrder).screen setup.settings.errorPrefix).content := by
  intro setup started overtaken inOrder
  refine ⟨rfl, rfl, rfl, ?_⟩
  apply (newest_completion_is_shown setup.settings rfl overtaken).2.2.2 inOrder
  intro entry
  have late : (play setup.settings overtaken).completed =
      [(1, .ok .void), (0, .ok .void)] := rfl
  have timely : (play setup.settings inOrder).completed =
      [(0, .ok .void), (1, .ok .void)] := rfl
  simp only [late, timely, List.mem_cons, List.not_mem_nil, or_false]
  exact or_comm

end Session

end Rerun
