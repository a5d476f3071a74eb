import Rerun.Proofs.Session.Progress

/-! A cycle on its own, every pause gone through.  At each pause, what a cycle has done
and what it has still to do make up the same trial. -/

namespace Rerun

variable {Handle Instance : Type}

def Outcome.ofCall : Except Diagnostic Value → Outcome
  | .error d => .error ⟨.runtime, d⟩
  | .ok value => .ok value

def Execution.after (calls : List Call) (records : List LogRecord) (e : Execution) :
    Execution :=
  ⟨e.outcome, calls ++ e.calls, records ++ e.log⟩

/-- What a suspended cycle has still to do. -/
def Standing.remainder (sandbox : Sandbox Instance) (id : CycleId) :
    Standing Instance → Execution
  | instantiating size rest =>
      match rest.result with
      | .error d => ⟨.error ⟨.instantiation, d⟩, [], []⟩
      | .ok program =>
          ⟨.ofCall (sandbox.callMain program).result, [.callMain id],
            [⟨.debug, instantiatedText size⟩]⟩
  | calling rest => ⟨.ofCall rest.result, [], []⟩

def Progress.remainder (sandbox : Sandbox Instance) (id : CycleId) :
    Progress Instance → Execution
  | paused standing => standing.remainder sandbox id
  | ended outcome => ⟨outcome, [], []⟩

theorem Progress.remainder_ofCall (sandbox : Sandbox Instance) (id : CycleId)
    (rest : Pausing (Except Diagnostic Value)) :
    (ofCall rest).remainder sandbox id = ⟨.ofCall rest.result, [], []⟩ := by
  cases rest with
  | paused rest => rfl
  | done result => cases result <;> rfl

/-- Carrying a cycle on takes nothing away from its trial and adds nothing to it. -/
theorem Standing.next_remainder (sandbox : Sandbox Instance) (id : CycleId)
    (standing : Standing Instance) :
    ((standing.next sandbox).remainder sandbox id).after (standing.calls id)
      standing.records = standing.remainder sandbox id := by
  cases standing with
  | calling rest => exact Progress.remainder_ofCall sandbox id rest
  | instantiating size rest =>
      match rest with
      | .paused rest => rfl
      | .done (.error d) => rfl
      | .done (.ok program) =>
          rw [next, Progress.remainder_ofCall]
          rfl

theorem Sandbox.run_eq (sandbox : Sandbox Instance) (id : CycleId) (binary : ByteArray) :
    sandbox.run id binary =
      ((Standing.entering sandbox binary).remainder sandbox id).after
        [.instantiate id binary] [] := by
  rw [run, Standing.entering, Standing.remainder]
  cases (sandbox.instantiate binary).result with
  | error d => rfl
  | ok program =>
      dsimp only
      cases (sandbox.callMain program).result <;> rfl

namespace Setup

/-- What becomes of a text in a cycle of its own, with the calls on the sandbox. -/
def trial (setup : Setup Handle Instance) (id : CycleId) (text : String) : Execution :=
  match (setup.assembler.assemble setup.settings 0 text).binary with
  | .error d => ⟨.error ⟨.assembly, d⟩, [], []⟩
  | .ok binary => setup.sandbox.run id binary

theorem opening_trial (setup : Setup Handle Instance) (id : CycleId) (text : String) :
    let opening := setup.opening id text
    (opening.progress.remainder setup.sandbox id).after opening.calls opening.records =
      setup.trial id text := by
  rw [opening, trial]
  cases (setup.assembler.assemble setup.settings 0 text).binary with
  | error d => rfl
  | ok binary =>
      dsimp only
      rw [Sandbox.run_eq, ← Standing.next_remainder]
      rfl

/-- The outcome of a trial is the reference, whatever its number. -/
theorem trial_outcome (setup : Setup Handle Instance) (id : CycleId) (text : String) :
    (setup.trial id text).outcome =
      reference setup.assembler setup.sandbox setup.settings text := by
  rw [trial, reference]
  cases (setup.assembler.assemble setup.settings 0 text).binary with
  | error d => rfl
  | ok binary =>
      dsimp only
      rw [Sandbox.run, Sandbox.run]
      cases (setup.sandbox.instantiate binary).result <;> rfl

theorem trial_countP_isMain (setup : Setup Handle Instance) (id : CycleId) (text : String) :
    (setup.trial id text).calls.countP Call.isMain ≤ 1 := by
  rw [trial]
  cases (setup.assembler.assemble setup.settings 0 text).binary with
  | error d => exact Nat.zero_le 1
  | ok binary =>
      dsimp only
      rw [Sandbox.run]
      cases (setup.sandbox.instantiate binary).result <;> simp [Call.isMain]

def Assembles (setup : Setup Handle Instance) (text : String) (binary : ByteArray) : Prop :=
  ∃ handle,
    setup.assembler.parse setup.settings.moduleName text setup.settings.parseOptions =
      .ok handle ∧
    setup.assembler.encode handle = .ok binary

/-- The assembler refuses the text, or what it made of it. -/
def Refuses (setup : Setup Handle Instance) (text : String) (d : Diagnostic) : Prop :=
  setup.assembler.parse setup.settings.moduleName text setup.settings.parseOptions =
    .error d ∨
  ∃ handle,
    setup.assembler.parse setup.settings.moduleName text setup.settings.parseOptions =
      .ok handle ∧
    setup.assembler.encode handle = .error d

/-- The sandbox makes the program of the text's binary. -/
def Loads (setup : Setup Handle Instance) (text : String) (binary : ByteArray)
    (program : Instance) : Prop :=
  setup.Assembles text binary ∧ (setup.sandbox.instantiate binary).result = .ok program

theorem assemble_eq_ok_iff (setup : Setup Handle Instance) (text : String)
    (binary : ByteArray) :
    (setup.assembler.assemble setup.settings 0 text).binary = .ok binary ↔
      setup.Assembles text binary := by
  rw [Assembler.assemble, Assembles]
  cases setup.assembler.parse setup.settings.moduleName text
      setup.settings.parseOptions with
  | error d => simp
  | ok handle =>
      dsimp only
      cases encoded : setup.assembler.encode handle <;> simp [encoded]

theorem assemble_eq_error_iff (setup : Setup Handle Instance) (text : String)
    (d : Diagnostic) :
    (setup.assembler.assemble setup.settings 0 text).binary = .error d ↔
      setup.Refuses text d := by
  rw [Assembler.assemble, Refuses]
  cases setup.assembler.parse setup.settings.moduleName text
      setup.settings.parseOptions with
  | error d => simp
  | ok handle =>
      dsimp only
      cases encoded : setup.assembler.encode handle <;> simp [encoded]

/-- An outcome names the stage that failed and passes its diagnostic on, and the calls
on the sandbox go no further than that stage. -/
structure Verdict (setup : Setup Handle Instance) (id : CycleId) (text : String)
    (outcome : Outcome) (calls : List Call) : Prop where
  assembly : ∀ d, outcome = .error ⟨.assembly, d⟩ ↔ setup.Refuses text d
  instantiation : ∀ d, outcome = .error ⟨.instantiation, d⟩ ↔
    ∃ binary, setup.Assembles text binary ∧
      (setup.sandbox.instantiate binary).result = .error d
  runtime : ∀ d, outcome = .error ⟨.runtime, d⟩ ↔
    ∃ binary program, setup.Loads text binary program ∧
      (setup.sandbox.callMain program).result = .error d
  value : ∀ v, outcome = .ok v ↔
    ∃ binary program, setup.Loads text binary program ∧
      (setup.sandbox.callMain program).result = .ok v
  refused : ∀ d, setup.Refuses text d → calls = []
  unloaded : ∀ d binary, setup.Assembles text binary →
    (setup.sandbox.instantiate binary).result = .error d → calls = [.instantiate id binary]
  loaded : ∀ binary program, setup.Loads text binary program →
    calls = [.instantiate id binary, .callMain id]

theorem trial_verdict (setup : Setup Handle Instance) (id : CycleId) (text : String) :
    setup.Verdict id text (setup.trial id text).outcome (setup.trial id text).calls := by
  have assembles (binary : ByteArray) := (setup.assemble_eq_ok_iff text binary).symm
  have refuses (d : Diagnostic) := (setup.assemble_eq_error_iff text d).symm
  rw [trial]
  cases assembled : (setup.assembler.assemble setup.settings 0 text).binary with
  | error d =>
      simp only [assembled, reduceCtorEq, Except.error.injEq] at assembles refuses
      have loads (binary : ByteArray) (program : Instance) :
          ¬ setup.Loads text binary program := fun loaded => (assembles binary).mp loaded.1
      constructor <;> simp [assembles, refuses, loads]
  | ok binary =>
      simp only [assembled, reduceCtorEq, Except.ok.injEq] at assembles refuses
      dsimp only
      rw [Sandbox.run]
      cases instantiated : (setup.sandbox.instantiate binary).result with
      | error d =>
          have loads (other : ByteArray) (program : Instance) :
              ¬ setup.Loads text other program := by
            rintro ⟨assembled, loaded⟩
            obtain rfl := (assembles other).mp assembled
            cases instantiated.symm.trans loaded
          constructor <;> simp [assembles, refuses, loads, instantiated]
      | ok program =>
          have loads (other : ByteArray) (made : Instance) :
              setup.Loads text other made ↔ binary = other ∧ program = made := by
            rw [Loads, assembles]
            refine and_congr_right fun same => ?_
            rw [← same, instantiated, Except.ok.injEq]
          have ran {P : ByteArray → Instance → Prop} :
              (∃ other made, setup.Loads text other made ∧ P other made) ↔
                P binary program := by
            constructor
            · rintro ⟨other, made, loaded, holds⟩
              obtain ⟨rfl, rfl⟩ := (loads other made).mp loaded
              exact holds
            · exact fun holds => ⟨binary, program, (loads _ _).mpr ⟨rfl, rfl⟩, holds⟩
          cases called : (setup.sandbox.callMain program).result <;> constructor
          case error.loaded | ok.loaded => simp [loads]
          all_goals simp [assembles, refuses, ran, instantiated, called]

end Setup

end Rerun
