import Mathlib.Data.List.Chain
import Rerun.Cycle.Phase

/-! Paths of phases.  Those that lead from idle back to idle are made up of round trips. -/

namespace Rerun

/-- The ways a cycle can take before it is idle again. -/
inductive RoundTrip
  | unchanged
  | refused
  | executed (success : Bool)
deriving DecidableEq, Repr

namespace RoundTrip

/-- The phases after the idle one that the trip starts from. -/
def phases : RoundTrip → List Phase
  | unchanged => [.detecting, .idle]
  | refused => [.detecting, .assembling, .failed, .reported false, .idle]
  | executed success => [.detecting, .assembling, .executing, .reported success, .idle]

/-- One trip after another; each starts where the one before it ended. -/
def joined (trips : List RoundTrip) : List Phase := .idle :: trips.flatMap phases

end RoundTrip

namespace Phase

def IsPath (path : List Phase) : Prop :=
  path.IsChain fun first next => first.canAdvanceTo next

instance (path : List Phase) : Decidable (IsPath path) :=
  inferInstanceAs (Decidable (path.IsChain fun first next => first.canAdvanceTo next))

def IsCircuit (path : List Phase) : Prop :=
  path.head? = some idle ∧ path.getLast? = some idle ∧ IsPath path

/-- What may be left of a round trip. -/
def waysHome : Phase → List (List Phase)
  | idle => [[]]
  | reported _ => [[idle]]
  | failed => [[reported false, idle]]
  | executing => [[reported false, idle], [reported true, idle]]
  | assembling =>
      [[failed, reported false, idle], [executing, reported false, idle],
        [executing, reported true, idle]]
  | detecting =>
      [[idle], [assembling, failed, reported false, idle],
        [assembling, executing, reported false, idle],
        [assembling, executing, reported true, idle]]

theorem cons_mem_waysHome {phase next : Phase} (away : phase ≠ idle)
    (accepted : phase.canAdvanceTo next) {way : List Phase} (home : way ∈ next.waysHome) :
    next :: way ∈ phase.waysHome := by
  cases phase <;> cases next <;> simp_all [canAdvanceTo, waysHome]

theorem exists_phases_of_mem_waysHome {way : List Phase} (home : way ∈ detecting.waysHome) :
    ∃ trip : RoundTrip, trip.phases = detecting :: way := by
  simp only [waysHome, List.mem_cons, List.not_mem_nil, or_false] at home
  rcases home with rfl | rfl | rfl | rfl
  · exact ⟨.unchanged, rfl⟩
  · exact ⟨.refused, rfl⟩
  · exact ⟨.executed false, rfl⟩
  · exact ⟨.executed true, rfl⟩

/-- From any phase, a path to idle first completes a round trip. -/
theorem IsPath.split {phase : Phase} {path : List Phase} (isPath : IsPath (phase :: path))
    (home : (phase :: path).getLast? = some idle) :
    ∃ way ∈ phase.waysHome, ∃ trips : List RoundTrip,
      path = way ++ trips.flatMap RoundTrip.phases := by
  induction path generalizing phase with
  | nil =>
      obtain rfl : phase = idle := by simpa using home
      exact ⟨[], List.mem_singleton_self [], [], rfl⟩
  | cons next path ih =>
      obtain ⟨accepted, later⟩ := List.isChain_cons_cons.mp isPath
      rw [List.getLast?_cons_cons] at home
      obtain ⟨way, left, trips, rfl⟩ := ih later home
      by_cases away : phase = idle
      · subst away
        -- a new trip begins here
        obtain rfl : next = detecting := by cases next <;> simp_all [canAdvanceTo]
        obtain ⟨trip, whole⟩ := exists_phases_of_mem_waysHome left
        refine ⟨[], List.mem_singleton_self [], trip :: trips, ?_⟩
        rw [List.flatMap_cons, whole]
        rfl
      · exact ⟨next :: way, cons_mem_waysHome away accepted left, trips, rfl⟩

theorem IsPath.joined (trips : List RoundTrip) : IsPath (RoundTrip.joined trips) := by
  induction trips with
  | nil => exact List.isChain_singleton idle
  | cons trip trips ih =>
      cases trip with
      | unchanged => exact .cons_cons rfl (.cons_cons rfl ih)
      | refused =>
          exact .cons_cons rfl (.cons_cons rfl (.cons_cons rfl (.cons_cons rfl
            (.cons_cons rfl ih))))
      | executed success =>
          exact .cons_cons rfl (.cons_cons rfl (.cons_cons rfl (.cons_cons rfl
            (.cons_cons rfl ih))))

theorem joined_getLast? (trips : List RoundTrip) :
    (RoundTrip.joined trips).getLast? = some idle := by
  induction trips with
  | nil => rfl
  | cons trip trips ih =>
      rw [RoundTrip.joined] at ih ⊢
      cases trip <;> simpa [RoundTrip.phases] using ih

theorem isCircuit_iff (path : List Phase) :
    IsCircuit path ↔ ∃ trips, path = RoundTrip.joined trips := by
  constructor
  · rintro ⟨first, home, isPath⟩
    cases path with
    | nil => cases first
    | cons phase path =>
        obtain rfl : phase = idle := Option.some.inj first
        obtain ⟨way, left, trips, rfl⟩ := isPath.split home
        obtain rfl : way = [] := List.mem_singleton.mp left
        exact ⟨trips, rfl⟩
  · rintro ⟨trips, rfl⟩
    exact ⟨rfl, joined_getLast? trips, .joined trips⟩

end Phase

end Rerun
