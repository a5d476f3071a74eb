import Rerun.Proofs.Session.Detection

/-! Cycles do not touch each other.  Restricted to one cycle, a session is again a
session, and a step does to the restriction what it does to the whole. -/

namespace Rerun

variable {Handle Instance : Type}

namespace Call

/-- The cycle that a call on the sandbox is made for. -/
def cycle? : Call → Option CycleId
  | instantiate cycle _ | callMain cycle => some cycle
  | _ => none

def ofCycle (id : CycleId) (calls : List Call) : List Call :=
  calls.filter (·.cycle? == some id)

@[simp] theorem ofCycle_append (id : CycleId) (first second : List Call) :
    ofCycle id (first ++ second) = ofCycle id first ++ ofCycle id second :=
  List.filter_append ..

theorem ofCycle_eq_nil {id : CycleId} {calls : List Call}
    (foreign : ∀ call ∈ calls, call.cycle? ≠ some id) : ofCycle id calls = [] :=
  List.filter_eq_nil_iff.mpr fun call member => by simpa using foreign call member

/-- The calls made for one cycle are all its own, and no other's. -/
theorem ofCycle_of_owner {owner : CycleId} {calls : List Call}
    (own : ∀ call ∈ calls, call.cycle? = some owner) (id : CycleId) :
    ofCycle id calls = if owner = id then calls else [] := by
  split
  next same =>
    apply List.filter_eq_self.mpr
    intro call member
    simp [own call member, same]
  next different =>
    apply ofCycle_eq_nil
    intro call member
    simpa [own call member] using different

end Call

/-- The assembler knows nothing of cycles. -/
@[simp] theorem Assembler.ofCycle_assemble_calls (assembler : Assembler Handle)
    (settings : Settings) (serial : Nat) (text : String) (id : CycleId) :
    Call.ofCycle id (assembler.assemble settings serial text).calls = [] := by
  apply Call.ofCycle_eq_nil
  simp only [assemble]
  cases assembler.parse settings.moduleName text settings.parseOptions with
  | error d => simp [Call.cycle?]
  | ok handle =>
      dsimp only
      cases assembler.encode handle <;> simp [Call.cycle?]

namespace Standing

theorem calls_cycle? (standing : Standing Instance) (id : CycleId) :
    ∀ call ∈ standing.calls id, call.cycle? = some id := by
  intro call member
  match standing, member with
  | instantiating size (.done (.ok program)), member =>
      obtain rfl : call = .callMain id := by simpa [calls] using member
      rfl

theorem ofCycle_calls (standing : Standing Instance) (owner id : CycleId) :
    Call.ofCycle id (standing.calls owner) = if owner = id then standing.calls owner else [] :=
  Call.ofCycle_of_owner (standing.calls_cycle? owner) id

end Standing

namespace Setup

theorem opening_calls_cycle? (setup : Setup Handle Instance) (id : CycleId) (text : String) :
    ∀ call ∈ (setup.opening id text).calls, call.cycle? = some id := by
  intro call member
  simp only [opening] at member
  split at member
  · cases member
  · rcases List.mem_cons.mp member with rfl | later
    · rfl
    · exact Standing.calls_cycle? _ _ call later

theorem ofCycle_opening_calls (setup : Setup Handle Instance) (owner id : CycleId)
    (text : String) :
    Call.ofCycle id (setup.opening owner text).calls =
      if owner = id then (setup.opening owner text).calls else [] :=
  Call.ofCycle_of_owner (setup.opening_calls_cycle? owner text) id

end Setup

/-- Whether a step is a reading, or names the cycle. -/
def Step.concerns (id : CycleId) (step : Step) : Bool := step.target?.all (· == id)

namespace Session

/-- What a session holds of one cycle. -/
def only (s : Session Instance) (id : CycleId) : Session Instance where
  baseline := s.baseline
  nextCycle := s.nextCycle
  detected := s.detected.filter (·.id == id)
  suspended := s.suspended.filter (·.1.id == id)
  calls := Call.ofCycle id s.calls
  discarded := s.discarded.filter (· == id)
  completed := s.completed.filter (·.1 == id)

private theorem filter_of_ne {α : Type} (key : α → Nat) (l : List α) {id other : Nat}
    (different : other ≠ id) :
    (l.filter (key · != other)).filter (key · == id) = l.filter (key · == id) := by
  rw [List.filter_filter]
  apply List.filter_congr
  intro a member
  by_cases same : key a = id
  · simp [same, Ne.symm different]
  · simp [same]

private theorem filter_of_eq {α : Type} (key : α → Nat) (l : List α) (id : Nat) :
    (l.filter (key · != id)).filter (key · == id) = [] := by
  simp [List.filter_eq_nil_iff]

theorem dequeued_only_of_ne (s : Session Instance) {id other : CycleId}
    (different : other ≠ id) : (s.dequeued other).only id = s.only id := by
  simp only [only, dequeued, filter_of_ne Cycle.id s.detected different]

theorem awakened_only_of_ne (s : Session Instance) {id other : CycleId}
    (different : other ≠ id) : (s.awakened other).only id = s.only id := by
  simp only [only, awakened, filter_of_ne (fun entry => entry.1.id) s.suspended different]

theorem settle_only_of_ne (settings : Settings) (s : Session Instance) {c : Cycle}
    (p : Progress Instance) {id : CycleId} (different : c.id ≠ id) :
    (s.settle settings c p).only id = s.only id := by
  cases p <;> simp [only, Progress.standings, Progress.endings, different]

theorem opened_only_of_ne (setup : Setup Handle Instance) (s : Session Instance) {c : Cycle}
    {id : CycleId} (different : c.id ≠ id) : (s.opened setup c).only id = s.only id := by
  simp [only, opened, setup.ofCycle_opening_calls, different]

theorem resumed_only_of_ne (s : Session Instance) {c : Cycle} (standing : Standing Instance)
    {id : CycleId} (different : c.id ≠ id) : (s.resumed c standing).only id = s.only id := by
  have awake := s.awakened_only_of_ne different
  simp only [only, awakened, mk.injEq] at awake
  simp [only, resumed, awakened, standing.ofCycle_calls, different, awake]

/-- A step that names another cycle leaves the cycle alone. -/
theorem Effect.only_of_foreign {setup : Setup Handle Instance} {s t : Session Instance}
    {step : Step} (effect : Effect setup s step t) {id : CycleId}
    (foreign : step.concerns id = false) : t.only id = s.only id := by
  cases effect with
  | idle => rfl
  | started text changed => simp [Step.concerns, Step.target?] at foreign
  | discarded c found =>
      have different : c.id ≠ id := by simpa [Step.concerns, Step.target?] using foreign
      have rest := s.dequeued_only_of_ne different
      simp only [only, dequeued, mk.injEq] at rest
      simp [only, dequeued, rest, different]
  | begun c found =>
      have different : c.id ≠ id := by simpa [Step.concerns, Step.target?] using foreign
      rw [settle_only_of_ne _ _ _ (by exact different), opened_only_of_ne _ _ different,
        dequeued_only_of_ne _ different]
  | resumed c standing found =>
      have different : c.id ≠ id := by simpa [Step.concerns, Step.target?] using foreign
      rw [settle_only_of_ne _ _ _ different, resumed_only_of_ne _ _ different]

section Congr

variable {s t : Session Instance} {id : CycleId}

theorem detected_find?_congr (alike : s.only id = t.only id) :
    s.detected.find? (·.id == id) = t.detected.find? (·.id == id) := by
  have waiting : s.detected.filter (·.id == id) = t.detected.filter (·.id == id) :=
    congrArg detected alike
  rw [← List.head?_filter, ← List.head?_filter, waiting]

theorem suspended_find?_congr (alike : s.only id = t.only id) :
    s.suspended.find? (·.1.id == id) = t.suspended.find? (·.1.id == id) := by
  have held : s.suspended.filter (·.1.id == id) = t.suspended.filter (·.1.id == id) :=
    congrArg suspended alike
  rw [← List.head?_filter, ← List.head?_filter, held]

theorem dequeued_only_congr (alike : s.only id = t.only id) :
    (s.dequeued id).only id = (t.dequeued id).only id := by
  simp only [only, mk.injEq] at alike
  simp only [only, dequeued, alike, filter_of_eq Cycle.id]

theorem settle_only_congr (alike : s.only id = t.only id) (settings : Settings) (c : Cycle)
    (p : Progress Instance) :
    (s.settle settings c p).only id = (t.settle settings c p).only id := by
  simp only [only, mk.injEq] at alike
  simp [only, alike]

theorem opened_only_congr (alike : s.only id = t.only id) (setup : Setup Handle Instance)
    (c : Cycle) : (s.opened setup c).only id = (t.opened setup c).only id := by
  simp only [only, mk.injEq] at alike
  simp [only, opened, alike]

theorem resumed_only_congr (alike : s.only id = t.only id) {c : Cycle} (own : c.id = id)
    (standing : Standing Instance) :
    (s.resumed c standing).only id = (t.resumed c standing).only id := by
  subst own
  simp only [only, mk.injEq] at alike
  simp only [only, resumed, awakened, alike, Call.ofCycle_append,
    filter_of_eq (fun entry : Cycle × Standing Instance => entry.1.id)]

theorem started_only_congr (alike : s.only id = t.only id) (text : String) :
    (s.started text).only id = (t.started text).only id := by
  simp only [only, mk.injEq] at alike
  simp [only, started, alike]

end Congr

/-- What a step does to a cycle depends on nothing but what is held of it. -/
theorem step_only_congr (setup : Setup Handle Instance) {s t : Session Instance}
    {id : CycleId} (alike : s.only id = t.only id) (step : Step) :
    (s.step setup step).only id = (t.step setup step).only id := by
  cases own : step.concerns id with
  | false =>
      -- the step may do different things to the two sessions, but none of them to the cycle
      rw [(step_effect setup s step).only_of_foreign own,
        (step_effect setup t step).only_of_foreign own, alike]
  | true =>
      cases step with
      | detect reading =>
          have baseline : s.baseline = t.baseline := by
            simpa [only] using congrArg Session.baseline alike
          rcases s.detect_cases reading with ⟨unchanged, nothing⟩ | ⟨text, rfl, changed, created⟩
          · rw [baseline] at unchanged
            simp only [Session.step, nothing, detect_unchanged t unchanged, alike]
          · rw [baseline] at changed
            simp only [Session.step, created, detect_changed t changed]
            exact started_only_congr alike text
      | begin other =>
          obtain rfl : other = id := by simpa [Step.concerns, Step.target?] using own
          simp only [Session.step, begin, detected_find?_congr alike]
          cases found : t.detected.find? (·.id == other) with
          | none => exact alike
          | some c =>
              simp only [launch_eq]
              exact settle_only_congr (opened_only_congr (dequeued_only_congr alike) setup c)
                _ _ _
      | resume other =>
          obtain rfl : other = id := by simpa [Step.concerns, Step.target?] using own
          simp only [Session.step, resume, suspended_find?_congr alike]
          cases found : t.suspended.find? (·.1.id == other) with
          | none => exact alike
          | some entry =>
              obtain ⟨c, standing⟩ := entry
              obtain rfl : c.id = other := by simpa using List.find?_some found
              simp only [proceed_eq]
              exact settle_only_congr (resumed_only_congr alike rfl standing) _ _ _
      | discard other =>
          obtain rfl : other = id := by simpa [Step.concerns, Step.target?] using own
          simp only [Session.step, discard, detected_find?_congr alike]
          cases found : t.detected.find? (·.id == other) with
          | none => exact alike
          | some c =>
              have rest := dequeued_only_congr alike
              simp only [only, dequeued, mk.injEq] at rest
              simp [only, rest]

/-- A cycle is as it would be in a run without the steps that name other cycles. -/
theorem play_only_filter (settings : Settings) (moves : List (Move Handle Instance))
    (id : CycleId) :
    (play settings moves).only id =
      (play settings (moves.filter (·.step.concerns id))).only id := by
  induction moves using List.reverseRecOn with
  | nil => rfl
  | append_singleton moves m ih =>
      rw [play_concat, List.filter_append]
      cases own : m.step.concerns id with
      | false =>
          simp only [own, List.filter_cons_of_neg, List.filter_nil, List.append_nil,
            Bool.false_eq_true, not_false_eq_true]
          rw [← ih]
          exact (step_effect _ _ m.step).only_of_foreign own
      | true =>
          simp only [own, List.filter_cons_of_pos, List.filter_nil, play_concat]
          exact step_only_congr _ ih m.step

theorem run_only_filter (setup : Setup Handle Instance) (steps : List Step) (id : CycleId) :
    (run setup steps).only id = (run setup (steps.filter (·.concerns id))).only id := by
  rw [← play_moves, ← play_moves, play_only_filter, Setup.moves, List.filter_map]
  rfl

end Session

end Rerun
