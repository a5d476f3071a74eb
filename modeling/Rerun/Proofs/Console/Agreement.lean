import Rerun.Console
import Rerun.Proofs.Session.Served

/-! A file that is checked, and the same file when it is run.  A check assembles by itself and
writes its own lines, and still comes to what the session of a run comes to. -/

namespace Rerun

variable {Handle Instance : Type}

@[simp] theorem FileReader.read_fst (r : FileReader) (found : Except ReadError String) :
    (r.read found).1 = found.toOption := by
  cases found <;> rfl

/-- What is told of an outcome in JSON, the number of its cycle apart. -/
def Outcome.members : Outcome → List (String × String)
  | .ok value => [("result", Json.string value.shown), ("status", Json.string "ok")]
  | .error failure =>
      [("error", Json.string failure.diagnostic.shown),
        ("kind", Json.string failure.stage.name), ("status", Json.string "error")]

theorem Outcome.line_eq (cycle : CycleId) (outcome : Outcome) :
    outcome.line cycle = Json.object (("cycle", toString cycle) :: outcome.members) := by
  cases outcome <;> rfl

namespace Session

/-- What becomes of a single text. -/
theorem serve_text (setup : Setup Handle Instance) {text : String} (nonempty : text ≠ "") :
    let s := Session.serve setup {} (some text)
    let outcome := reference setup.assembler setup.sandbox setup.settings text
    s.completed = [(0, outcome)] ∧ s.delivered = [(0, outcome)] ∧
      ∀ cycle, Call.ofCycle cycle s.calls =
        if cycle = 0 then (setup.trial 0 text).calls else [] := by
  intro s outcome
  have served : Served setup [some text] s := foldl_served setup [some text]
  have single : changes ("" :: [some text].filterMap id) = [text] := by
    simp [changes, Ne.symm nonempty]
  have delivered := served.delivered_eq
  rw [single] at delivered
  refine ⟨served.completed_eq.trans delivered, delivered, ?_⟩
  intro cycle
  by_cases first : cycle = 0
  · subst first
    exact served.ofCycle_calls (by rw [single]; rfl)
  · rw [if_neg first]
    apply served.ofCycle_calls_eq_nil
    rw [single]
    exact Nat.pos_of_ne_zero first

end Session

namespace Console

open CommandLine (Order)

section Run

variable (setup : Setup Handle Instance) (json : Bool) {files : Files} {path text : String}

theorem run_of_nothing (nothing : ∀ text, files path = .ok text → text = "") :
    run setup json files path = failed s!"{path} is empty or unreadable" none := by
  cases found : files path with
  | error e =>
      rw [run, found]
      rfl
  | ok text =>
      obtain rfl := nothing text found
      rw [run, found]
      rfl

theorem run_of_text (found : files path = .ok text) (nonempty : text ≠ "") :
    let outcome := reference setup.assembler setup.sandbox setup.settings text
    run setup json files path =
      { output := printed setup.settings json 0 outcome
        status := if outcome.isOk then 0 else 1 } := by
  intro outcome
  obtain ⟨completed, delivered, -⟩ := Session.serve_text setup nonempty
  have created : (Session.detect ({} : Session Instance) (some text)).1 =
      some ⟨0, text, .assembling⟩ := by
    rw [Session.detect_changed {} nonempty]
  have known : (Session.serve setup {} (some text)).outcome? 0 = some outcome := by
    rw [Session.outcome?, completed]
    rfl
  simp only [run, FileReader.read_fst, found, Except.toOption, created, known, delivered,
    Option.any_some, printedAll, List.map_cons, List.map_nil, String.join_cons, String.join_nil]
  simp [outcome]

end Run

section Perform

variable (assembler : Assembler Handle) (sandbox : Sandbox Instance) {files : Files}
  {order : Order}

theorem perform_of_error {e : SettingsError} (broken : settingsOf files order = .error e) :
    perform assembler sandbox files order = .ended (failed e.message (some e.cause)) := by
  rw [perform, broken]

theorem perform_check {settings : Settings} (configured : settingsOf files order = .ok settings)
    (verb : order.verb = .check) :
    perform assembler sandbox files order =
      .ended (check assembler settings order.json files order.file) := by
  simp only [perform, configured, verb]

theorem perform_run {settings : Settings} (configured : settingsOf files order = .ok settings)
    (verb : order.verb = .run) :
    perform assembler sandbox files order =
      .ended (run ⟨assembler, sandbox, settings⟩ order.json files order.file) := by
  simp only [perform, configured, verb]

end Perform

section Check

variable {assembler : Assembler Handle} {settings : Settings} (json : Bool) {files : Files}
  {path text : String}

end Check

end Console

end Rerun
