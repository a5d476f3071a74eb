import Mathlib.Data.List.Chain
import Rerun.Proofs.Cycle.RoundTrip
import Rerun.Proofs.Text.Cut
import Rerun.Session

/-! Advances of cycles from phase to phase, and the records that are written of them. -/

namespace Rerun

namespace Phase

private def every : List Phase :=
  [idle, detecting, assembling, executing, failed, reported false, reported true]

private theorem mem_every (phase : Phase) : phase ∈ every := by
  cases phase with
  | reported success => cases success <;> decide
  | _ => decide

theorem name_injective : Function.Injective name := by
  have distinct : ∀ first ∈ every, ∀ second ∈ every,
      first.name = second.name → first = second := by decide
  intro first second
  exact distinct first (mem_every first) second (mem_every second)

theorem dash_not_mem_name (phase : Phase) : '-' ∉ phase.name.toList := by
  have undashed : ∀ phase ∈ every, '-' ∉ phase.name.toList := by decide
  exact undashed phase (mem_every phase)

end Phase

structure Advance where
  cycle : CycleId
  start : Phase
  next : Phase
deriving DecidableEq, Repr

namespace Advance

def isLegal (a : Advance) : Bool := a.start.canAdvanceTo a.next

def record (a : Advance) : LogRecord :=
  ⟨.trace, s!"Cycle {a.cycle.shown}: {a.start.name} -> {a.next.name}"⟩

/-- The advances of a cycle along a path. -/
def along (id : CycleId) (path : List Phase) : List Advance :=
  (path.zip path.tail).map fun (start, next) => ⟨id, start, next⟩

def ofCycle (id : CycleId) (advances : List Advance) : List Advance :=
  advances.filter (·.cycle == id)

@[simp] theorem ofCycle_append (id : CycleId) (first second : List Advance) :
    ofCycle id (first ++ second) = ofCycle id first ++ ofCycle id second :=
  List.filter_append ..

theorem cycle_of_mem_along {id : CycleId} {path : List Phase} {a : Advance}
    (member : a ∈ along id path) : a.cycle = id := by
  obtain ⟨pair, -, rfl⟩ := List.mem_map.mp member
  rfl

theorem ofCycle_along (owner id : CycleId) (path : List Phase) :
    ofCycle id (along owner path) = if owner = id then along owner path else [] := by
  split
  next same =>
    apply List.filter_eq_self.mpr
    intro a member
    simp [cycle_of_mem_along member, same]
  next different =>
    apply List.filter_eq_nil_iff.mpr
    intro a member
    simp [cycle_of_mem_along member, different]

theorem isLegal_of_mem_along {id : CycleId} {path : List Phase} (isPath : Phase.IsPath path)
    {a : Advance} (member : a ∈ along id path) : a.isLegal := by
  induction path with
  | nil => cases member
  | cons start path ih =>
      cases path with
      | nil => cases member
      | cons next path =>
          obtain ⟨accepted, later⟩ := List.isChain_cons_cons.mp isPath
          rcases List.mem_cons.mp member with rfl | rest
          · exact accepted
          · exact ih later rest

theorem record_text_toList (a : Advance) :
    a.record.text.toList =
      "Cycle #".toList ++ (Nat.toDigits 10 a.cycle ++ ':' :: ' ' ::
        ((a.start.name ++ " ").toList ++ '-' :: '>' :: ' ' :: a.next.name.toList)) := by
  change ("Cycle " ++ ("#" ++ a.cycle.repr) ++ ": " ++ a.start.name ++ " -> " ++
    a.next.name).toList = _
  simp [Nat.toList_repr]

theorem record_injective : Function.Injective record := by
  intro a b same
  have texts := congrArg (fun r : LogRecord => r.text.toList) same
  simp only [record_text_toList, List.append_cancel_left_eq] at texts
  have undashed (phase : Phase) : ∀ c ∈ (phase.name ++ " ").toList, c != '-' := by
    intro c member
    rw [String.toList_append, List.mem_append] at member
    rcases member with named | blank
    · exact bne_iff_ne.mpr fun dash => phase.dash_not_mem_name (dash ▸ named)
    · obtain rfl := List.mem_singleton.mp blank
      rfl
  obtain ⟨cycle, phases⟩ := toDigits_append_cons_inj rfl texts
  obtain ⟨starts, nexts⟩ := append_cons_inj (undashed a.start) (undashed b.start) rfl
    (List.cons.inj phases).2
  have start : a.start = b.start := by
    apply Phase.name_injective
    rw [String.toList_append, String.toList_append] at starts
    exact String.toList_inj.mp (List.append_cancel_right starts)
  have next : a.next = b.next :=
    Phase.name_injective (String.toList_inj.mp (List.cons.inj (List.cons.inj nexts).2).2)
  cases a
  cases b
  simp_all only

end Advance

end Rerun
