import Rerun.Proofs.Session.Census

/-! Detection over whole runs: the cycles of a run are exactly the changes of what was
read, whatever becomes of the cycles meanwhile. -/

namespace Rerun

variable {Handle Instance : Type}

/-- The texts of a sequence that differ from the one just before them. -/
def changes (texts : List String) : List String :=
  ((texts.zip texts.tail).filter fun pair => pair.1 ≠ pair.2).map (·.2)

private theorem changes_cons_cons (first second : String) (rest : List String) :
    changes (first :: second :: rest) =
      (if first = second then [] else [second]) ++ changes (second :: rest) := by
  by_cases same : first = second <;> simp [changes, same]

theorem changes_concat (first : String) (rest : List String) (text : String) :
    changes (first :: (rest ++ [text])) =
      changes (first :: rest) ++
        if rest.getLast?.getD first = text then [] else [text] := by
  induction rest generalizing first with
  | nil =>
      by_cases same : first = text <;> simp [changes, same]
  | cons second rest ih =>
      rw [List.cons_append, changes_cons_cons, ih, changes_cons_cons, List.append_assoc,
        List.getLast?_cons]
      rfl

/-- A text that comes back is a change, and so is an empty text, except at the front. -/
example : changes ["", "", "a", "a", "b", "a", "", ""] = ["a", "b", "a", ""] := by decide

namespace Step

/-- The texts that steps read; a reading that fails leaves no trace. -/
def textsRead (steps : List Step) : List String := steps.filterMap text?

/-- The last text read; the empty text if there is none. -/
def lastRead (steps : List Step) : String := (textsRead steps).getLast?.getD ""

def textsStarted (steps : List Step) : List String := changes ("" :: textsRead steps)

theorem textsRead_concat (steps : List Step) (step : Step) :
    textsRead (steps ++ [step]) = textsRead steps ++ step.text?.toList := by
  cases read : step.text? <;> simp [textsRead, read]

theorem lastRead_concat (steps : List Step) (step : Step) :
    lastRead (steps ++ [step]) = step.text?.getD (lastRead steps) := by
  cases read : step.text? <;> simp [lastRead, textsRead_concat, read]

theorem textsStarted_concat (steps : List Step) (step : Step) :
    textsStarted (steps ++ [step]) =
      textsStarted steps ++ (step.text?.filter (· ≠ lastRead steps)).toList := by
  cases read : step.text? with
  | none => simp [textsStarted, textsRead_concat, read]
  | some text =>
      simp only [textsStarted, textsRead_concat, read, Option.toList_some, changes_concat]
      change changes ("" :: textsRead steps) ++
        (if lastRead steps = text then [] else [text]) = _
      by_cases same : lastRead steps = text
      · simp [same]
      · simp [same, Option.filter_some, Ne.symm same]

theorem lastRead_concat_of_unchanged {steps : List Step} {step : Step}
    (nothing : step.text?.filter (· ≠ lastRead steps) = none) :
    lastRead (steps ++ [step]) = lastRead steps := by
  rw [lastRead_concat]
  cases read : step.text? with
  | none => rfl
  | some text => simpa [read, Option.filter_some] using nothing

/-- The text that was last read is the one that was last started on. -/
theorem textsStarted_getLast? {steps : List Step} (nonempty : textsStarted steps ≠ []) :
    (textsStarted steps).getLast? = some (lastRead steps) := by
  induction steps using List.reverseRecOn with
  | nil => exact absurd rfl nonempty
  | append_singleton steps step ih =>
      have started := textsStarted_concat steps step
      cases changed : step.text?.filter (· ≠ lastRead steps) with
      | none =>
          rw [changed, Option.toList_none, List.append_nil] at started
          rw [started] at nonempty
          rw [started, lastRead_concat_of_unchanged changed, ih nonempty]
      | some text =>
          have read : step.text? = some text := (Option.filter_eq_some_iff.mp changed).1
          rw [changed] at started
          rw [started, lastRead_concat, read]
          exact List.getLast?_concat

end Step

namespace Session

def created? (s : Session Instance) : Step → Option Cycle
  | .detect reading => (s.detect reading).1
  | _ => none

def creations (settings : Settings) :
    Session Instance → List (Move Handle Instance) → List Cycle
  | _, [] => []
  | s, m :: rest => (s.created? m.step).toList ++ creations settings (s.move settings m) rest

theorem creations_append (settings : Settings) (s : Session Instance)
    (first second : List (Move Handle Instance)) :
    creations settings s (first ++ second) =
      creations settings s first ++
        creations settings (first.foldl (move settings) s) second := by
  induction first generalizing s with
  | nil => rfl
  | cons head tail ih => simp only [List.cons_append, creations, ih, List.append_assoc,
      List.foldl_cons]

theorem creations_concat (settings : Settings) (s : Session Instance)
    (moves : List (Move Handle Instance)) (m : Move Handle Instance) :
    creations settings s (moves ++ [m]) =
      creations settings s moves ++
        ((moves.foldl (move settings) s).created? m.step).toList := by
  rw [creations_append, creations, creations, List.append_nil]

/-- A reading starts a cycle when it is a text other than the baseline. -/
theorem detect_fst (s : Session Instance) (reading : Option String) :
    (s.detect reading).1 =
      (reading.filter (· ≠ s.baseline.text)).map fun text =>
        ⟨s.nextCycle, text, .assembling⟩ := by
  cases reading with
  | none => rfl
  | some text =>
      by_cases same : text = s.baseline.text
      · rw [detect_unchanged s (by simpa using same)]
        simp [Option.filter, same]
      · rw [detect_changed s same]
        simp [Option.filter, same]

theorem detect_snd_detected (s : Session Instance) (reading : Option String) :
    (s.detect reading).2.detected = s.detected ++ (s.detect reading).1.toList := by
  cases reading with
  | none => simp [detect]
  | some text =>
      by_cases same : text = s.baseline.text
      · rw [detect_unchanged s (by simpa using same)]
        simp
      · rw [detect_changed s same]
        rfl

theorem detect_snd_of_fst_eq_none (s : Session Instance) {reading : Option String}
    (nothing : (s.detect reading).1 = none) : (s.detect reading).2 = s := by
  rw [detect_fst] at nothing
  have unchanged : ∀ text ∈ reading, text = s.baseline.text := by
    simpa [Option.filter_eq_none_iff] using nothing
  rw [detect_unchanged s unchanged]

/-- The baseline is the last text read, and the next number counts the changes. -/
structure Follows (s : Session Instance) (steps : List Step) : Prop where
  baseline : s.baseline.text = Step.lastRead steps
  count : s.nextCycle = (Step.textsStarted steps).length

section Effect

variable {setup : Setup Handle Instance} {s t : Session Instance} {step : Step}

theorem Effect.baseline (effect : Effect setup s step t) :
    t.baseline.text = step.text?.getD s.baseline.text := by
  cases effect with
  | idle _ unchanged =>
      cases read : step.text? with
      | none => rfl
      | some text => exact (unchanged text read).symm
  | started text changed => rfl
  | discarded c found => rfl
  | begun c found => exact congrArg Baseline.text (settle_baseline ..)
  | resumed c standing found => exact congrArg Baseline.text (settle_baseline ..)

theorem Effect.nextCycle (effect : Effect setup s step t) :
    t.nextCycle = s.nextCycle + (step.text?.filter (· ≠ s.baseline.text)).toList.length := by
  cases effect with
  | idle _ unchanged =>
      have nothing : step.text?.filter (· ≠ s.baseline.text) = none := by
        simpa [Option.filter_eq_none_iff] using unchanged
      rw [nothing]
      rfl
  | started text changed =>
      simp [Step.text?, Session.started, Option.filter_some, changed]
  | discarded c found => rfl
  | begun c found => exact settle_nextCycle ..
  | resumed c standing found => exact settle_nextCycle ..

theorem Effect.follows (effect : Effect setup s step t) {steps : List Step}
    (follows : s.Follows steps) : t.Follows (steps ++ [step]) := by
  constructor
  · rw [effect.baseline, follows.baseline, Step.lastRead_concat]
  · rw [effect.nextCycle, follows.count, follows.baseline, Step.textsStarted_concat,
      List.length_append]

end Effect

theorem foldl_baseline (setup : Setup Handle Instance) (s : Session Instance)
    (steps : List Step) :
    (steps.foldl (Session.step setup) s).baseline.text =
      (Step.textsRead steps).getLast?.getD s.baseline.text := by
  induction steps using List.reverseRecOn with
  | nil => rfl
  | append_singleton steps step ih =>
      rw [List.foldl_append, List.foldl_cons, List.foldl_nil,
        (step_effect setup _ step).baseline, ih, Step.textsRead_concat]
      cases step.text? <;> simp

theorem play_follows (settings : Settings) (moves : List (Move Handle Instance)) :
    (play settings moves).Follows (moves.map (·.step)) := by
  induction moves using List.reverseRecOn with
  | nil => exact ⟨rfl, rfl⟩
  | append_singleton moves m ih =>
      rw [play_concat, List.map_append]
      exact (step_effect _ _ m.step).follows ih

theorem run_follows (setup : Setup Handle Instance) (steps : List Step) :
    (run setup steps).Follows steps := by
  have follows := play_follows setup.settings (setup.moves steps)
  rw [play_moves] at follows
  simpa [Setup.moves, Function.comp_def] using follows

theorem created?_eq (s : Session Instance) (step : Step) :
    s.created? step =
      (step.text?.filter (· ≠ s.baseline.text)).map fun text =>
        ⟨s.nextCycle, text, .assembling⟩ := by
  cases step with
  | detect reading => exact detect_fst s reading
  | _ => rfl

theorem creations_zipIdx (settings : Settings) (moves : List (Move Handle Instance)) :
    (creations settings {} moves).map (fun c => (c.text, c.id)) =
      (Step.textsStarted (moves.map (·.step))).zipIdx := by
  induction moves using List.reverseRecOn with
  | nil => rfl
  | append_singleton moves m ih =>
      have follows := play_follows settings moves
      have here : moves.foldl (move settings) {} = play settings moves := rfl
      rw [creations_concat, here, created?_eq, follows.baseline, follows.count,
        List.map_append, ih, List.map_append, List.map_singleton, Step.textsStarted_concat,
        List.zipIdx_append, Nat.zero_add]
      cases m.step.text?.filter (· ≠ Step.lastRead (moves.map (·.step))) <;> rfl

/-- The cycles of a run are the changes of the texts read, numbered in order, and no others
are held anywhere.  A reading that starts no cycle changes nothing. -/
theorem creations_are_changes (settings : Settings) (moves : List (Move Handle Instance)) :
    let s := play settings moves
    let texts := Step.textsRead (moves.map (·.step))
    (creations settings {} moves).map (fun c => (c.text, c.id)) =
      (changes ("" :: texts)).zipIdx ∧
    s.ids.Perm (List.range (changes ("" :: texts)).length) ∧
    s.baseline.text = texts.getLast?.getD "" ∧
    ∀ reading,
      (s.detect reading).1 =
        (reading.filter (· ≠ s.baseline.text)).map (fun text =>
          ⟨(changes ("" :: texts)).length, text, .assembling⟩) ∧
      (s.detect reading).2.detected = s.detected ++ (s.detect reading).1.toList ∧
      ((s.detect reading).1 = none → (s.detect reading).2 = s) := by
  intro s texts
  have follows := play_follows settings moves
  have counted := play_counted settings moves
  refine ⟨creations_zipIdx settings moves, ?_, follows.baseline, ?_⟩
  · rw [Counted, follows.count] at counted
    exact counted
  · intro reading
    refine ⟨?_, detect_snd_detected s reading, detect_snd_of_fst_eq_none s⟩
    rw [detect_fst, follows.count]
    rfl

end Session

end Rerun
