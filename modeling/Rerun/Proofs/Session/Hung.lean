import Rerun.Proofs.Session.Backstage

/-! A run from which the steps that resume one cycle are left out.  The cycle stays where
it first paused, and the others go on as before. -/

namespace Rerun

variable {Handle Instance : Type}

theorem leaders_filter {entries : List Completion} {entry : Completion}
    (leads : entry ∈ leaders entries) {p : Completion → Bool} (kept : p entry = true) :
    entry ∈ leaders (entries.filter p) := by
  induction entries using List.reverseRecOn with
  | nil => cases leads
  | append_singleton entries last ih =>
      rw [List.filter_append]
      rw [leaders_concat] at leads
      rcases List.mem_append.mp leads with earlier | now
      · cases dropped : p last with
        | false => simpa [dropped] using ih earlier
        | true =>
            simp only [List.filter_cons, dropped, if_true, List.filter_nil, leaders_concat]
            exact List.mem_append_left _ (ih earlier)
      · cases late : Completion.isLate entries last.1 with
        | true => simp [late] at now
        | false =>
            obtain rfl : entry = last := by simpa [late] using now
            -- fewer entries come before it, so none of them is ahead of it either
            have timely : Completion.isLate (entries.filter p) entry.1 = false := by
              apply List.any_eq_false.mpr
              intro other member
              exact List.any_eq_false.mp late other (List.mem_filter.mp member).1
            simp [kept, leaders_concat, timely]

namespace Session

def Hangs (s : Session Instance) (id : CycleId) : Prop :=
  ∃ entry ∈ s.suspended, entry.1.id = id

section Effect

variable {setup : Setup Handle Instance} {s t : Session Instance} {step : Step}

/-- Whatever comes to be suspended pauses, and only the cycle that is resumed leaves. -/
theorem Effect.pauses (effect : Effect setup s step t) :
    ∃ held fresh : List (Cycle × Standing Instance),
      t.suspended = held ++ fresh ∧ t.pauses = s.pauses ++ fresh.map (·.1.id) ∧
      held ⊆ s.suspended ∧
      ∀ entry ∈ s.suspended, step ≠ .resume entry.1.id → entry ∈ held := by
  have still {u : Session Instance} (suspended : u.suspended = s.suspended)
      (pauses : u.pauses = s.pauses) :
      ∃ held fresh : List (Cycle × Standing Instance),
        u.suspended = held ++ fresh ∧ u.pauses = s.pauses ++ fresh.map (·.1.id) ∧
        held ⊆ s.suspended ∧
        ∀ entry ∈ s.suspended, step ≠ .resume entry.1.id → entry ∈ held := by
    refine ⟨s.suspended, [], by simp [suspended], by simp [pauses], List.Subset.refl _, ?_⟩
    intro entry member _
    exact member
  cases effect with
  | idle => exact still rfl rfl
  | started text changed => exact still rfl rfl
  | discarded c found => exact still rfl rfl
  | begun c found =>
      refine ⟨s.suspended, (setup.opening c.id c.text).progress.standings
        { c with phase := (setup.opening c.id c.text).phase }, settle_suspended ..,
        settle_pauses .., List.Subset.refl _, ?_⟩
      intro entry member _
      exact member
  | resumed c standing found =>
      refine ⟨s.suspended.filter (·.1.id != c.id),
        (standing.next setup.sandbox).standings c, settle_suspended .., settle_pauses ..,
        List.filter_sublist.subset, ?_⟩
      intro entry member other
      apply List.mem_filter.mpr
      refine ⟨member, ?_⟩
      have different : entry.1.id ≠ c.id := fun same => other (same ▸ rfl)
      simpa using different

theorem Effect.hangs (effect : Effect setup s step t) {id : CycleId} (hung : s.Hangs id)
    (other : step ≠ .resume id) : t.Hangs id := by
  obtain ⟨held, fresh, suspended, -, -, kept⟩ := effect.pauses
  obtain ⟨entry, member, rfl⟩ := hung
  exact ⟨entry, suspended ▸ List.mem_append_left _ (kept entry member other), rfl⟩

/-- A cycle that pauses for the first time is suspended then. -/
theorem Effect.hangs_of_pauses (effect : Effect setup s step t) {id : CycleId}
    (before : id ∉ s.pauses) (after : id ∈ t.pauses) : t.Hangs id := by
  obtain ⟨held, fresh, suspended, pauses, -, -⟩ := effect.pauses
  rw [pauses, List.mem_append] at after
  obtain ⟨entry, member, same⟩ := List.mem_map.mp (after.resolve_left before)
  exact ⟨entry, suspended ▸ List.mem_append_right _ member, same⟩

theorem Effect.pauses_subset (effect : Effect setup s step t) : s.pauses ⊆ t.pauses := by
  obtain ⟨held, fresh, -, pauses, -, -⟩ := effect.pauses
  rw [pauses]
  exact List.subset_append_left _ _

end Effect

theorem play_hangs_paused (settings : Settings) (moves : List (Move Handle Instance))
    {id : CycleId} (hung : (play settings moves).Hangs id) :
    id ∈ (play settings moves).pauses := by
  induction moves using List.reverseRecOn with
  | nil =>
      obtain ⟨entry, member, -⟩ := hung
      cases member
  | append_singleton moves m ih =>
      rw [play_concat] at hung ⊢
      obtain ⟨held, fresh, suspended, pauses, before, -⟩ :=
        (step_effect (m.setup settings) (play settings moves) m.step).pauses
      obtain ⟨entry, member, rfl⟩ := hung
      change entry ∈ ((play settings moves).step (m.setup settings) m.step).suspended at member
      change entry.1.id ∈ ((play settings moves).step (m.setup settings) m.step).pauses
      rw [suspended] at member
      rw [pauses]
      rcases List.mem_append.mp member with earlier | now
      · exact List.mem_append_left _ (ih ⟨entry, before earlier, rfl⟩)
      · exact List.mem_append_right _ (List.mem_map.mpr ⟨entry, now, rfl⟩)

theorem resume_of_not_hangs (setup : Setup Handle Instance) (s : Session Instance)
    {id : CycleId} (absent : ¬ s.Hangs id) : s.resume setup id = s := by
  cases found : s.suspended.find? (·.1.id == id) with
  | none => simp only [resume, found]
  | some entry =>
      have same : entry.1.id = id := by simpa using List.find?_some found
      exact absurd ⟨entry, List.mem_of_find?_eq_some found, same⟩ absent

/-- Until the cycle pauses nothing is left out, and from then on it hangs. -/
theorem play_hangs (settings : Settings) (moves : List (Move Handle Instance))
    (id : CycleId) :
    let s := play settings moves
    let t := play settings (moves.filter (·.step.isKept (· != id)))
    (id ∈ s.pauses → t.Hangs id) ∧ (id ∉ s.pauses → t = s) := by
  induction moves using List.reverseRecOn with
  | nil => exact ⟨fun paused => absurd paused List.not_mem_nil, fun _ => rfl⟩
  | append_singleton moves m ih =>
      obtain ⟨hung, same⟩ := ih
      rw [play_concat, List.filter_append]
      have effect := step_effect (m.setup settings) (play settings moves) m.step
      cases kept : m.step.isKept (· != id) with
      | true =>
          have other : m.step ≠ .resume id := by
            intro resumes
            simp [resumes, Step.isKept] at kept
          simp only [List.filter_cons, kept, if_true, List.filter_nil, play_concat]
          by_cases paused : id ∈ (play settings moves).pauses
          · have stays := (step_effect (m.setup settings) _ m.step).hangs (hung paused) other
            exact ⟨fun _ => stays, fun never => absurd (effect.pauses_subset paused) never⟩
          · rw [same paused]
            exact ⟨effect.hangs_of_pauses paused, fun _ => rfl⟩
      | false =>
          simp only [List.filter_cons, kept, Bool.false_eq_true, if_false, List.filter_nil,
            List.append_nil]
          by_cases paused : id ∈ (play settings moves).pauses
          · exact ⟨fun _ => hung paused, fun never => absurd (effect.pauses_subset paused) never⟩
          · -- a cycle that has not paused is not suspended, and to resume it does nothing
            have absent : ¬ (play settings moves).Hangs id := fun hangs =>
              paused (play_hangs_paused settings moves hangs)
            have unmoved : (play settings moves).move settings m = play settings moves := by
              obtain ⟨assembler, sandbox, step⟩ := m
              cases step with
              | resume other =>
                  obtain rfl : other = id := by simpa [Step.isKept] using kept
                  exact resume_of_not_hangs ⟨assembler, sandbox, settings⟩ _ absent
              | _ => cases kept
            rw [unmoved]
            exact ⟨fun now => absurd now paused, fun _ => same paused⟩

theorem Counted.not_completed_of_hangs {s : Session Instance} (counted : s.Counted)
    {id : CycleId} (hung : s.Hangs id) : ∀ entry ∈ s.completed, entry.1 ≠ id := by
  obtain ⟨held, suspended, rfl⟩ := hung
  intro entry member same
  have begun : s.begunIds.Nodup :=
    ((List.sublist_append_right _ _).trans (List.sublist_append_left _ _)).nodup counted.nodup
  rw [begunIds, List.nodup_append] at begun
  exact begun.2.2 _ (List.mem_map.mpr ⟨held, suspended, rfl⟩) _
    (List.mem_map_of_mem member) same.symm

section Spared

variable (settings : Settings) (moves : List (Move Handle Instance)) (id : CycleId)

theorem play_spared_backstage :
    (play settings (moves.filter (·.step.isKept (· != id)))).backstage (· != id) =
      (play settings moves).backstage (· != id) :=
  (foldl_backstage settings settings.reportPolicy settings.reportPolicy rfl moves).symm

theorem play_spared_only {other : CycleId} (different : other ≠ id) :
    (play settings (moves.filter (·.step.isKept (· != id)))).only other =
      (play settings moves).only other := by
  have same : ∀ m ∈ moves,
      (m.step.concerns other && m.step.isKept (· != id)) = m.step.concerns other := by
    intro m member
    cases m.step with
    | resume resumed =>
        by_cases own : resumed = other
        · simp [Step.concerns, Step.target?, Step.isKept, own, different]
        · simp [Step.concerns, Step.target?, own]
    | _ => exact Bool.and_true _
  rw [play_only_filter, play_only_filter settings moves, List.filter_filter,
    List.filter_congr same]

theorem play_spared_completed (paused : id ∈ (play settings moves).pauses) :
    (play settings (moves.filter (·.step.isKept (· != id)))).completed =
      (play settings moves).completed.filter (·.1 != id) := by
  have hung := (play_hangs settings moves id).1 paused
  have counted := play_counted settings (moves.filter (·.step.isKept (· != id)))
  have alike := congrArg completed (play_spared_backstage settings moves id)
  simp only [backstage] at alike
  rw [← alike, eq_comm, List.filter_eq_self]
  intro entry member
  simpa using counted.not_completed_of_hangs hung entry member

end Spared

end Session

end Rerun
