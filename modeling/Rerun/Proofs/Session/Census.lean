import Mathlib.Data.List.Induction
import Rerun.Proofs.Session.Effect

/-! Every cycle that was started is in exactly one place: it waits to begin, is
suspended, is completed, or was thrown away. -/

namespace Rerun

variable {Handle Instance : Type}

private theorem perm_cons_filter {α : Type} (key : α → Nat) {l : List α} {a : α}
    (distinct : (l.map key).Nodup) (member : a ∈ l) :
    l.Perm (a :: l.filter (key · != key a)) := by
  induction l with
  | nil => cases member
  | cons head tail ih =>
      rw [List.map_cons, List.nodup_cons] at distinct
      obtain ⟨fresh, distinctTail⟩ := distinct
      rcases List.mem_cons.mp member with rfl | inTail
      · have kept : tail.filter (key · != key a) = tail := by
          apply List.filter_eq_self.mpr
          intro b inside
          have different : key b ≠ key a := fun same =>
            fresh (same ▸ List.mem_map_of_mem inside)
          simpa using different
        simp [kept]
      · have different : key head ≠ key a := fun same =>
          fresh (same ▸ List.mem_map_of_mem inTail)
        have step : (head :: tail).filter (key · != key a) =
            head :: tail.filter (key · != key a) := by
          simp [different]
        rw [step]
        exact ((ih distinctTail inTail).cons head).trans (.swap ..)

namespace Session

def begunIds (s : Session Instance) : List CycleId :=
  s.suspended.map (·.1.id) ++ s.completed.map (·.1)

/-- All cycles, wherever they are. -/
def ids (s : Session Instance) : List CycleId :=
  s.detected.map (·.id) ++ s.begunIds ++ s.discarded

theorem mem_ids_of_detected {s : Session Instance} {c : Cycle} (member : c ∈ s.detected) :
    c.id ∈ s.ids :=
  List.mem_append_left _ (List.mem_append_left _ (List.mem_map_of_mem member))

theorem mem_ids_of_begun {s : Session Instance} {id : CycleId} (member : id ∈ s.begunIds) :
    id ∈ s.ids :=
  List.mem_append_left _ (List.mem_append_right _ member)

theorem mem_begunIds_of_suspended {s : Session Instance} {entry : Cycle × Standing Instance}
    (member : entry ∈ s.suspended) : entry.1.id ∈ s.begunIds :=
  List.mem_append_left _ (List.mem_map.mpr ⟨entry, member, rfl⟩)

theorem mem_begunIds_of_completed {s : Session Instance} {entry : CycleId × Outcome}
    (member : entry ∈ s.completed) : entry.1 ∈ s.begunIds :=
  List.mem_append_right _ (List.mem_map_of_mem member)

/-- No cycle is lost and none is in two places. -/
def Counted (s : Session Instance) : Prop :=
  s.ids.Perm (List.range s.nextCycle)

theorem Counted.nodup {s : Session Instance} (counted : s.Counted) : s.ids.Nodup :=
  counted.nodup_iff.mpr List.nodup_range

theorem Counted.mem_ids {s : Session Instance} (counted : s.Counted) {id : CycleId} :
    id ∈ s.ids ↔ id < s.nextCycle := by
  rw [counted.mem_iff, List.mem_range]

theorem Counted.completed_nodup {s : Session Instance} (counted : s.Counted) :
    (s.completed.map (·.1)).Nodup := by
  have inside : (s.completed.map (·.1)).Sublist s.ids :=
    ((List.sublist_append_right _ _).trans (List.sublist_append_right _ _)).trans
      (List.sublist_append_left _ _)
  exact inside.nodup counted.nodup

theorem Counted.detected_nodup {s : Session Instance} (counted : s.Counted) :
    (s.detected.map (·.id)).Nodup := by
  have inside : (s.detected.map (·.id)).Sublist s.ids :=
    (List.sublist_append_left _ _).trans (List.sublist_append_left _ _)
  exact inside.nodup counted.nodup

theorem Counted.suspended_nodup {s : Session Instance} (counted : s.Counted) :
    (s.suspended.map (·.1.id)).Nodup := by
  have inside : (s.suspended.map (·.1.id)).Sublist s.ids :=
    ((List.sublist_append_left _ _).trans (List.sublist_append_right _ _)).trans
      (List.sublist_append_left _ _)
  exact inside.nodup counted.nodup

theorem settle_begunIds_perm (settings : Settings) (s : Session Instance) (c : Cycle)
    (p : Progress Instance) :
    (s.settle settings c p).begunIds.Perm (c.id :: s.begunIds) := by
  cases p with
  | paused standing =>
      simp only [begunIds, settle_suspended, settle_completed, Progress.standings,
        Progress.endings, List.map_append, List.map_cons, List.map_nil, List.append_nil,
        List.append_assoc, List.singleton_append]
      exact List.perm_middle
  | ended outcome =>
      simp only [begunIds, settle_suspended, settle_completed, Progress.standings,
        Progress.endings, List.map_append, List.map_cons, List.map_nil, List.append_nil]
      rw [← List.append_assoc]
      exact List.perm_append_singleton _ _

theorem settle_ids_perm (settings : Settings) (s : Session Instance) (c : Cycle)
    (p : Progress Instance) :
    (s.settle settings c p).ids.Perm (c.id :: s.ids) := by
  have begun := settle_begunIds_perm settings s c p
  have moved : (s.detected.map (·.id) ++ c.id :: s.begunIds).Perm
      (c.id :: (s.detected.map (·.id) ++ s.begunIds)) := List.perm_middle
  simp only [ids, settle_detected, settle_discarded]
  exact ((begun.append_left _).trans moved).append_right _

theorem Counted.dequeued_perm {s : Session Instance} (counted : s.Counted) {c : Cycle}
    (member : c ∈ s.detected) : s.ids.Perm (c.id :: (s.dequeued c.id).ids) := by
  have taken := (perm_cons_filter Cycle.id counted.detected_nodup member).map Cycle.id
  exact (taken.append_right s.begunIds).append_right s.discarded

theorem Counted.awakened_begunIds_perm {s : Session Instance} (counted : s.Counted)
    {entry : Cycle × Standing Instance} (member : entry ∈ s.suspended) :
    s.begunIds.Perm (entry.1.id :: (s.awakened entry.1.id).begunIds) := by
  have taken := (perm_cons_filter (fun entry : Cycle × Standing Instance => entry.1.id)
    counted.suspended_nodup member).map (·.1.id)
  exact taken.append_right _

theorem Counted.awakened_perm {s : Session Instance} (counted : s.Counted)
    {entry : Cycle × Standing Instance} (member : entry ∈ s.suspended) :
    s.ids.Perm (entry.1.id :: (s.awakened entry.1.id).ids) := by
  have begun := counted.awakened_begunIds_perm member
  have moved : (s.detected.map (·.id) ++ entry.1.id :: (s.awakened entry.1.id).begunIds).Perm
      (entry.1.id :: (s.detected.map (·.id) ++ (s.awakened entry.1.id).begunIds)) :=
    List.perm_middle
  exact ((begun.append_left _).trans moved).append_right s.discarded

theorem Counted.not_mem_dequeued {s : Session Instance} (counted : s.Counted) {c : Cycle}
    (member : c ∈ s.detected) : c.id ∉ (s.dequeued c.id).ids :=
  (List.nodup_cons.mp ((counted.dequeued_perm member).nodup_iff.mp counted.nodup)).1

theorem Counted.not_mem_awakened {s : Session Instance} (counted : s.Counted)
    {entry : Cycle × Standing Instance} (member : entry ∈ s.suspended) :
    entry.1.id ∉ (s.awakened entry.1.id).ids :=
  (List.nodup_cons.mp ((counted.awakened_perm member).nodup_iff.mp counted.nodup)).1

theorem Effect.counted {setup : Setup Handle Instance} {s t : Session Instance}
    {step : Step} (effect : Effect setup s step t) (counted : s.Counted) : t.Counted := by
  cases effect with
  | idle => exact counted
  | started text changed =>
      have grown : (s.started text).ids.Perm (s.nextCycle :: s.ids) := by
        have added : ((s.started text).detected.map (·.id)).Perm
            (s.nextCycle :: s.detected.map (·.id)) := by
          simp only [Session.started, List.map_append, List.map_cons, List.map_nil]
          exact List.perm_append_singleton _ _
        exact (added.append_right s.begunIds).append_right s.discarded
      have counts : (List.range (s.nextCycle + 1)).Perm
          (s.nextCycle :: List.range s.nextCycle) := by
        rw [List.range_succ]
        exact List.perm_append_singleton _ _
      exact grown.trans ((counted.cons _).trans counts.symm)
  | discarded c found =>
      have taken := counted.dequeued_perm (List.mem_of_find?_eq_some found)
      have thrown : ((s.dequeued c.id).ids ++ [c.id]).Perm (c.id :: (s.dequeued c.id).ids) :=
        List.perm_append_singleton _ _
      refine List.Perm.trans ?_ (thrown.trans (taken.symm.trans counted))
      simp [ids, begunIds, dequeued]
  | begun c found =>
      have taken := counted.dequeued_perm (List.mem_of_find?_eq_some found)
      have settled := settle_ids_perm setup.settings ((s.dequeued c.id).opened setup c)
        { c with phase := (setup.opening c.id c.text).phase }
        (setup.opening c.id c.text).progress
      rw [Counted, settle_nextCycle]
      exact settled.trans (taken.symm.trans counted)
  | resumed c standing found =>
      have taken := counted.awakened_perm (List.mem_of_find?_eq_some found)
      have settled := settle_ids_perm setup.settings (s.resumed c standing) c
        (standing.next setup.sandbox)
      rw [Counted, settle_nextCycle]
      exact settled.trans (taken.symm.trans counted)

theorem play_counted (settings : Settings) (moves : List (Move Handle Instance)) :
    (play settings moves).Counted := by
  induction moves using List.reverseRecOn with
  | nil => exact List.Perm.refl []
  | append_singleton moves m ih =>
      rw [play_concat]
      exact (step_effect _ _ m.step).counted ih

theorem run_counted (setup : Setup Handle Instance) (steps : List Step) :
    (run setup steps).Counted := by
  rw [← play_moves]
  exact play_counted setup.settings (setup.moves steps)

theorem Effect.cyclesStarted {setup : Setup Handle Instance} {s t : Session Instance}
    {step : Step} (effect : Effect setup s step t)
    (same : s.stats.cyclesStarted = s.nextCycle) : t.stats.cyclesStarted = t.nextCycle := by
  cases effect with
  | idle => exact same
  | started text changed => exact congrArg (· + 1) same
  | discarded c found => exact same
  | begun c found =>
      rw [settle_cyclesStarted, settle_nextCycle]
      exact (Stats.opened_cyclesStarted _ _).trans same
  | resumed c standing found =>
      rw [settle_cyclesStarted, settle_nextCycle]
      exact same

theorem run_cyclesStarted (setup : Setup Handle Instance) (steps : List Step) :
    (run setup steps).stats.cyclesStarted = (run setup steps).nextCycle := by
  induction steps using List.reverseRecOn with
  | nil => rfl
  | append_singleton steps step ih =>
      rw [run_concat]
      exact (step_effect setup _ step).cyclesStarted ih

theorem Effect.discarded_eq {setup : Setup Handle Instance} {s t : Session Instance}
    {step : Step} (effect : Effect setup s step t) (kept : ∀ id, step ≠ .discard id) :
    t.discarded = s.discarded := by
  cases effect with
  | idle => rfl
  | started text changed => rfl
  | discarded c found => exact absurd rfl (kept c.id)
  | begun c found => exact settle_discarded ..
  | resumed c standing found => exact settle_discarded ..

theorem run_discarded_eq_nil (setup : Setup Handle Instance) {steps : List Step}
    (kept : ∀ id, .discard id ∉ steps) : (run setup steps).discarded = [] := by
  induction steps using List.reverseRecOn with
  | nil => rfl
  | append_singleton steps step ih =>
      have before := ih fun id member => kept id (List.mem_append_left _ member)
      have last (id : CycleId) : step ≠ .discard id := by
        rintro rfl
        exact kept id (List.mem_append_right _ (List.mem_singleton_self _))
      rw [run_concat, (step_effect setup _ step).discarded_eq last, before]

end Session

end Rerun
