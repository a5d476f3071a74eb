import Rerun.Proofs.Console.Agreement
import Rerun.Rehearsal

/-! With what status a command ends, how much it prints, and in which order it reads files. -/

namespace Rerun.Console

open CommandLine (Order)

variable {Handle Instance : Type}

/-! Plans -/

section Plan

variable (assembler : Assembler Handle) (sandbox : Sandbox Instance) (files : Files)
  (order : Order)

theorem result_planFor :
    (planFor assembler sandbox order).result files = perform assembler sandbox files order := by
  have known {settings : Settings} (set : settingsOf files order = .ok settings) :
      (planWith assembler sandbox order settings).result files =
        perform assembler sandbox files order := by
    simp only [perform, set]
    cases verb : order.verb <;> simp only [planWith, verb] <;> rfl
  cases config : order.config with
  | none =>
      simp only [planFor, config]
      exact known (by rw [settingsOf, config])
  | some path =>
      simp only [planFor, config, Plan.result]
      cases set : Settings.ofFile path (files path) with
      | error e => simp only [perform, settingsOf, config, set, Plan.result]
      | ok settings => exact known (by simp only [settingsOf, config, set])

/-- The settings are read first, and the file is only read with them. -/
theorem paths_planFor (once : order.verb ≠ .watch) :
    (planFor assembler sandbox order).paths files =
      order.config.toList ++
        match settingsOf files order with
        | .error _ => []
        | .ok _ => [order.file] := by
  have known (settings : Settings) :
      (planWith assembler sandbox order settings).paths files = [order.file] := by
    cases verb : order.verb with
    | watch => exact absurd verb once
    | _ =>
        simp only [planWith, verb]
        rfl
  rw [planFor, settingsOf]
  cases order.config with
  | none => exact known {}
  | some path =>
      dsimp only [Plan.paths]
      cases Settings.ofFile path (files path) with
      | error e => rfl
      | ok settings => exact congrArg (path :: ·) (known settings)

theorem plan_of_parse {args : List String}
    (parsed : CommandLine.parse args = .ok (.perform order)) :
    plan assembler sandbox args = planFor assembler sandbox order := by
  rw [plan, parsed]

end Plan

/-! Single commands -/

theorem printed_ne_empty (settings : Settings) (json : Bool) (id : CycleId) (outcome : Outcome) :
    printed settings json id outcome ≠ "" := by
  rw [printed]
  split <;> simp

theorem checkedLine_ne_empty (json : Bool) (path : String) (size : Nat) :
    checkedLine json path size ≠ "" := by
  rw [checkedLine]
  split <;> simp

/-- How a command that is no watch can end. -/
inductive Course (assembler : Assembler Handle) (sandbox : Sandbox Instance) (files : Files)
    (order : Order) : Ending → Prop
  | unset {e : SettingsError} (broken : settingsOf files order = .error e) :
      Course assembler sandbox files order (failed e.message (some e.cause))
  | nothing {settings : Settings} (verb : order.verb = .run)
      (configured : settingsOf files order = .ok settings)
      (empty : ∀ text, files order.file = .ok text → text = "") :
      Course assembler sandbox files order
        (failed s!"{order.file} is empty or unreadable" none)
  | ran {settings : Settings} {text : String} {outcome : Outcome} (verb : order.verb = .run)
      (configured : settingsOf files order = .ok settings)
      (found : files order.file = .ok text) (nonempty : text ≠ "")
      (completed : (Session.serve ⟨assembler, sandbox, settings⟩ {} (some text)).completed =
        [(0, outcome)])
      (delivered : (Session.serve ⟨assembler, sandbox, settings⟩ {} (some text)).delivered =
        [(0, outcome)]) :
      Course assembler sandbox files order
        { output := printed settings order.json 0 outcome
          status := if outcome.isOk then 0 else 1 }
  | unread {settings : Settings} {e : ReadError} (verb : order.verb = .check)
      (configured : settingsOf files order = .ok settings)
      (missing : files order.file = .error e) :
      Course assembler sandbox files order
        (failed s!"failed to read {order.file}" (some e.message))
  | assembled {settings : Settings} {text : String} {binary : ByteArray}
      (verb : order.verb = .check) (configured : settingsOf files order = .ok settings)
      (found : files order.file = .ok text)
      (checked : checkedBinary assembler settings text = .ok binary) :
      Course assembler sandbox files order
        { output := checkedLine order.json order.file binary.size, status := 0 }
  | refused {settings : Settings} {text : String} {d : Diagnostic}
      (verb : order.verb = .check) (configured : settingsOf files order = .ok settings)
      (found : files order.file = .ok text)
      (checked : checkedBinary assembler settings text = .error d) :
      Course assembler sandbox files order
        (if order.json then { output := faultLine d, status := 1 }
          else { errors := d.render order.file text, status := 1 })

/-- A command that is no watch ends, in one of these ways. -/
theorem exists_course (assembler : Assembler Handle) (sandbox : Sandbox Instance)
    (files : Files) {order : Order} (once : order.verb ≠ .watch) :
    ∃ ending, perform assembler sandbox files order = .ended ending ∧
      Course assembler sandbox files order ending := by
  cases configured : settingsOf files order with
  | error e => exact ⟨_, perform_of_error assembler sandbox configured, .unset configured⟩
  | ok settings =>
      cases verb : order.verb with
      | watch => exact absurd verb once
      | run =>
          refine ⟨_, perform_run assembler sandbox configured verb, ?_⟩
          by_cases filled : ∃ text, files order.file = .ok text ∧ text ≠ ""
          · obtain ⟨text, found, nonempty⟩ := filled
            obtain ⟨completed, delivered, -⟩ :=
              Session.serve_text ⟨assembler, sandbox, settings⟩ nonempty
            rw [run_of_text _ _ found nonempty]
            exact .ran verb configured found nonempty completed delivered
          · have empty : ∀ text, files order.file = .ok text → text = "" := by
              simpa using filled
            rw [run_of_nothing _ _ empty]
            exact .nothing verb configured empty
      | check =>
          refine ⟨_, perform_check assembler sandbox configured verb, ?_⟩
          rw [check]
          cases found : files order.file with
          | error e => exact .unread verb configured found
          | ok text =>
              dsimp only
              cases checked : checkedBinary assembler settings text with
              | ok binary => exact .assembled verb configured found checked
              | error d => exact .refused verb configured found checked

/-- What an order needs to end well. -/
def Succeeds (assembler : Assembler Handle) (sandbox : Sandbox Instance) (files : Files)
    (order : Order) : Prop :=
  ∃ settings text,
    settingsOf files order = .ok settings ∧ files order.file = .ok text ∧
      match order.verb with
      | .run =>
          text ≠ "" ∧ ∃ value,
            (Session.serve ⟨assembler, sandbox, settings⟩ {} (some text)).completed =
              [(0, .ok value)]
      | .check => ∃ binary, checkedBinary assembler settings text = .ok binary
      | .watch => False

namespace Course

variable {assembler : Assembler Handle} {sandbox : Sandbox Instance} {files : Files}
  {order : Order} {ending : Ending}

theorem status_eq (course : Course assembler sandbox files order ending) :
    ending.status = 0 ∨ ending.status = 1 := by
  cases course with
  | unset | nothing | unread => exact .inr rfl
  | assembled => exact .inl rfl
  | ran =>
      dsimp only
      split
      · exact .inl rfl
      · exact .inr rfl
  | refused =>
      refine .inr ?_
      split <;> rfl

theorem status_eq_zero_iff (course : Course assembler sandbox files order ending) :
    ending.status = 0 ↔ Succeeds assembler sandbox files order := by
  have failure {status : UInt32} {p : Prop} (one : status = 1) (never : ¬p) :
      status = 0 ↔ p := by
    simp [one, never]
  cases course with
  | unset broken =>
      refine failure rfl ?_
      rintro ⟨settings, text, configured, -⟩
      cases broken.symm.trans configured
  | nothing verb configured empty =>
      refine failure rfl ?_
      rintro ⟨settings, text, -, found, passes⟩
      rw [verb] at passes
      exact passes.1 (empty text found)
  | @ran settings text outcome verb configured found nonempty completed delivered =>
      cases outcome with
      | ok value =>
          refine iff_of_true rfl ⟨settings, text, configured, found, ?_⟩
          rw [verb]
          exact ⟨nonempty, value, completed⟩
      | error f =>
          refine failure rfl ?_
          rintro ⟨others, other, reconfigured, refound, passes⟩
          cases configured.symm.trans reconfigured
          cases found.symm.trans refound
          rw [verb] at passes
          obtain ⟨-, value, passes⟩ := passes
          cases completed.symm.trans passes
  | unread verb configured missing =>
      refine failure rfl ?_
      rintro ⟨settings, text, -, found, -⟩
      cases missing.symm.trans found
  | assembled verb configured found checked =>
      refine iff_of_true rfl ⟨_, _, configured, found, ?_⟩
      rw [verb]
      exact ⟨_, checked⟩
  | refused verb configured found checked =>
      refine failure (by split <;> rfl) ?_
      rintro ⟨others, other, reconfigured, refound, passes⟩
      cases configured.symm.trans reconfigured
      cases found.symm.trans refound
      rw [verb] at passes
      obtain ⟨binary, passes⟩ := passes
      cases checked.symm.trans passes

theorem output_ne_empty_iff (course : Course assembler sandbox files order ending)
    (verb : order.verb = .run) :
    ending.output ≠ "" ↔
      ∃ settings text, settingsOf files order = .ok settings ∧
        files order.file = .ok text ∧ text ≠ "" := by
  cases course with
  | unset broken =>
      refine iff_of_false (fun printed => printed rfl) ?_
      rintro ⟨settings, text, configured, -⟩
      cases broken.symm.trans configured
  | nothing _ _ empty =>
      refine iff_of_false (fun printed => printed rfl) ?_
      rintro ⟨settings, text, -, found, nonempty⟩
      exact nonempty (empty text found)
  | @ran settings _ outcome _ configured found nonempty =>
      exact iff_of_true (printed_ne_empty settings order.json 0 outcome)
        ⟨_, _, configured, found, nonempty⟩
  | unread other | assembled other | refused other => cases verb.symm.trans other

theorem output_eq (course : Course assembler sandbox files order ending)
    (verb : order.verb = .run) {settings : Settings} {text : String}
    (configured : settingsOf files order = .ok settings)
    (found : files order.file = .ok text) (nonempty : text ≠ "") :
    ∃ outcome,
      (Session.serve ⟨assembler, sandbox, settings⟩ {} (some text)).delivered =
        [(0, outcome)] ∧
      ending.output = printed settings order.json 0 outcome := by
  cases course with
  | unset broken => cases broken.symm.trans configured
  | nothing _ _ empty => exact absurd (empty text found) nonempty
  | ran _ reconfigured refound _ _ delivered =>
      cases configured.symm.trans reconfigured
      cases found.symm.trans refound
      exact ⟨_, delivered, rfl⟩
  | unread other | assembled other | refused other => cases verb.symm.trans other

theorem output_ne_empty_iff_status (course : Course assembler sandbox files order ending)
    (verb : order.verb = .check) (text : order.json = false) :
    ending.output ≠ "" ↔ ending.status = 0 := by
  have failed : ¬(1 : UInt32) = 0 := by decide
  cases course with
  | unset | unread => exact iff_of_false (fun printed => printed rfl) failed
  | nothing other | ran other => cases verb.symm.trans other
  | @assembled _ _ binary =>
      exact iff_of_true (checkedLine_ne_empty order.json order.file binary.size) rfl
  | refused =>
      rw [text]
      exact iff_of_false (fun printed => printed rfl) failed

end Course

/-- Whether an order ends well does not depend on how it is told. -/
theorem succeeds_json_iff (assembler : Assembler Handle) (sandbox : Sandbox Instance)
    (files : Files) (order : Order) (json : Bool) :
    Succeeds assembler sandbox files { order with json } ↔
      Succeeds assembler sandbox files order := Iff.rfl

/-- A run and a check end with the status and the output they should.  The settings are read
first, and where there are none, neither is the file read nor anything called.  The status is
0 if the order succeeds and 1 if not, in JSON and without.  A run prints the report of its
one cycle where it finds a text, and nothing where it does not.  A check that is no JSON
prints something where it succeeds. -/
theorem commands_end_with_status (assembler : Assembler Handle) (sandbox : Sandbox Instance)
    (files : Files) {args : List String} {order : Order}
    (parsed : CommandLine.parse args = .ok (.perform order)) (once : order.verb ≠ .watch) :
    ∃ ending,
      (plan assembler sandbox args).result files = .ended ending ∧
      (plan assembler sandbox args).paths files =
        order.config.toList ++
          (match settingsOf files order with
            | .error _ => []
            | .ok _ => [order.file]) ∧
      (∀ e, settingsOf files order = .error e → ending = failed e.message (some e.cause)) ∧
      (ending.status = 0 ↔ Succeeds assembler sandbox files order) ∧
      (ending.status = 0 ∨ ending.status = 1) ∧
      (order.verb = .run →
        (ending.output ≠ "" ↔
          ∃ settings text, settingsOf files order = .ok settings ∧
            files order.file = .ok text ∧ text ≠ "") ∧
        ∀ settings text, settingsOf files order = .ok settings →
          files order.file = .ok text → text ≠ "" →
            ∃ outcome,
              (Session.serve ⟨assembler, sandbox, settings⟩ {} (some text)).delivered =
                [(0, outcome)] ∧
              ending.output = printed settings order.json 0 outcome) ∧
      (order.verb = .check → order.json = false →
        (ending.output ≠ "" ↔ ending.status = 0)) ∧
      ∀ others json, CommandLine.parse others = .ok (.perform { order with json }) →
        ∃ other, (plan assembler sandbox others).result files = .ended other ∧
          other.status = ending.status := by
  have ends {args : List String} {order : Order}
      (parsed : CommandLine.parse args = .ok (.perform order)) (once : order.verb ≠ .watch) :
      ∃ ending, (plan assembler sandbox args).result files = .ended ending ∧
        Course assembler sandbox files order ending := by
    rw [plan_of_parse assembler sandbox order parsed, result_planFor]
    exact exists_course assembler sandbox files once
  obtain ⟨ending, performed, course⟩ := ends parsed once
  refine ⟨ending, performed, ?_, ?_, course.status_eq_zero_iff, course.status_eq, ?_, ?_, ?_⟩
  · rw [plan_of_parse assembler sandbox order parsed]
    exact paths_planFor assembler sandbox files order once
  · intro e broken
    rw [plan_of_parse assembler sandbox order parsed, result_planFor,
      perform_of_error assembler sandbox broken] at performed
    exact (Work.ended.inj performed).symm
  · intro verb
    exact ⟨course.output_ne_empty_iff verb, fun settings text => course.output_eq verb⟩
  · exact course.output_ne_empty_iff_status
  · intro others json reparsed
    obtain ⟨other, reperformed, recourse⟩ := ends reparsed once
    refine ⟨other, reperformed, ?_⟩
    have same : other.status = 0 ↔ ending.status = 0 := by
      rw [recourse.status_eq_zero_iff, course.status_eq_zero_iff, succeeds_json_iff]
    rcases course.status_eq with passed | failed
    · rw [passed, same.mpr passed]
    · rcases recourse.status_eq with passed | failedToo
      · rw [passed, same.mp passed]
      · rw [failed, failedToo]

/-- The files of a directory in which each holds a program without a value. -/
def voidFiles : Files := fun _ => .ok "void"

def voidOrder (json : Bool) : Order := ⟨.run, "void.wat", none, none, json, false⟩

set_option maxRecDepth 10000 in
private theorem parse_void :
    (CommandLine.parse ["run", "void.wat"]).toOption = some (.perform (voidOrder false)) ∧
      (CommandLine.parse ["run", "void.wat", "--json"]).toOption =
        some (.perform (voidOrder true)) := by
  decide +kernel

set_option maxRecDepth 10000 in
private theorem void_isOk :
    (reference Rehearsal.assembler Rehearsal.sandbox {} "void").isOk = true := by
  decide +kernel

private theorem eq_ok_of_toOption {ε α : Type} {found : Except ε α} {a : α}
    (some : found.toOption = some a) : found = .ok a := by
  cases found with
  | error e => cases some
  | ok b => exact congrArg Except.ok (Option.some.inj some)

/-- A run that ends well, told in JSON or not. -/
theorem commands_end_with_status_void :
    let plain := plan Rehearsal.assembler Rehearsal.sandbox ["run", "void.wat"]
    let json := plan Rehearsal.assembler Rehearsal.sandbox ["run", "void.wat", "--json"]
    CommandLine.parse ["run", "void.wat"] = .ok (.perform (voidOrder false)) ∧
      (voidOrder false).verb ≠ .watch ∧
      ∃ ending other,
        plain.result voidFiles = .ended ending ∧ json.result voidFiles = .ended other ∧
        plain.paths voidFiles = ["void.wat"] ∧
        ending.status = 0 ∧ other.status = 0 ∧ ending.output ≠ "" := by
  intro plain json
  have parsed := eq_ok_of_toOption parse_void.1
  have parsedJson := eq_ok_of_toOption parse_void.2
  have once : (voidOrder false).verb ≠ .watch := by decide
  have configured : settingsOf voidFiles (voidOrder false) = .ok {} := rfl
  have nonempty : "void" ≠ "" := by decide
  obtain ⟨ending, ended, paths, -, status, -, run, -, told⟩ :=
    commands_end_with_status Rehearsal.assembler Rehearsal.sandbox voidFiles parsed once
  obtain ⟨other, endedOther, same⟩ := told _ true parsedJson
  have succeeds : Succeeds Rehearsal.assembler Rehearsal.sandbox voidFiles (voidOrder false) := by
    refine ⟨{}, "void", configured, rfl, nonempty, ?_⟩
    obtain ⟨completed, -, -⟩ :=
      Session.serve_text ⟨Rehearsal.assembler, Rehearsal.sandbox, {}⟩ nonempty
    rw [completed]
    have isOk := void_isOk
    cases outcome : reference Rehearsal.assembler Rehearsal.sandbox {} "void" with
    | error failure =>
        rw [outcome] at isOk
        cases isOk
    | ok value => exact ⟨value, rfl⟩
  have passed := status.mpr succeeds
  exact ⟨parsed, once, ending, other, ended, endedOther, paths, passed, same.trans passed,
    (run rfl).1.mpr ⟨{}, "void", configured, rfl, nonempty⟩⟩

end Rerun.Console
