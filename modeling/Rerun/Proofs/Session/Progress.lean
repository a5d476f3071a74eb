import Rerun.Proofs.Session.Step

/-! What carrying a cycle on comes to: from a standing alone one can tell whether the
cycle reaches a pause or its end, and which calls it makes on the way. -/

namespace Rerun

variable {Handle Instance : Type}

/-- How far a cycle gets when it is carried on. -/
inductive Progress (Instance : Type)
  | paused (standing : Standing Instance)
  | ended (outcome : Outcome)

namespace Progress

def ofCall : Pausing (Except Diagnostic Value) → Progress Instance
  | .paused rest => paused (.calling rest)
  | .done (.error d) => ended (.error ⟨.runtime, d⟩)
  | .done (.ok value) => ended (.ok value)

def standings (c : Cycle) : Progress Instance → List (Cycle × Standing Instance)
  | paused standing => [(c, standing)]
  | ended _ => []

def endings (id : CycleId) : Progress Instance → List (CycleId × Outcome)
  | paused _ => []
  | ended outcome => [(id, outcome)]

end Progress

namespace Standing

def entering (sandbox : Sandbox Instance) (binary : ByteArray) : Standing Instance :=
  instantiating binary.size (sandbox.instantiate binary)

def next (sandbox : Sandbox Instance) : Standing Instance → Progress Instance
  | instantiating size (.paused rest) => .paused (instantiating size rest)
  | instantiating _ (.done (.error d)) => .ended (.error ⟨.instantiation, d⟩)
  | instantiating _ (.done (.ok program)) => .ofCall (sandbox.callMain program)
  | calling rest => .ofCall rest

/-- The calls made before the next pause. -/
def calls (id : CycleId) : Standing Instance → List Call
  | instantiating _ (.done (.ok _)) => [.callMain id]
  | _ => []

def records : Standing Instance → List LogRecord
  | instantiating size (.done (.ok _)) => [⟨.debug, instantiatedText size⟩]
  | _ => []

end Standing

namespace Session

def settle (settings : Settings) (s : Session Instance) (c : Cycle) :
    Progress Instance → Session Instance
  | .paused standing => s.suspend c standing
  | .ended outcome => s.finish settings c outcome

theorem proceedCall_eq (setup : Setup Handle Instance) (s : Session Instance) (c : Cycle)
    (rest : Pausing (Except Diagnostic Value)) :
    s.proceedCall setup c rest = s.settle setup.settings c (.ofCall rest) := by
  cases rest with
  | paused rest => rfl
  | done result => cases result <;> rfl

theorem proceed_eq (setup : Setup Handle Instance) (s : Session Instance) (c : Cycle)
    (standing : Standing Instance) :
    s.proceed setup c standing =
      { s with
        calls := s.calls ++ standing.calls c.id
        log := s.log ++ standing.records }.settle setup.settings c
          (standing.next setup.sandbox) := by
  cases standing with
  | calling rest =>
      simp [proceed, proceedCall_eq, Standing.calls, Standing.records, Standing.next]
  | instantiating size rest =>
      match rest with
      | .paused rest =>
          simp [proceed, proceedInstantiation, settle, Standing.calls, Standing.records,
            Standing.next]
      | .done (.error d) =>
          simp [proceed, proceedInstantiation, settle, Standing.calls, Standing.records,
            Standing.next]
      | .done (.ok program) =>
          simp [proceed, proceedInstantiation, proceedCall_eq, note, Standing.calls,
            Standing.records, Standing.next]

end Session

/-- The number of a handle has no influence on what is assembled. -/
theorem Assembler.assemble_binary (assembler : Assembler Handle) (settings : Settings)
    (serial : Nat) (text : String) :
    (assembler.assemble settings serial text).binary =
      (assembler.assemble settings 0 text).binary := by
  simp only [assemble]
  cases assembler.parse settings.moduleName text settings.parseOptions with
  | error d => rfl
  | ok handle =>
      dsimp only
      cases assembler.encode handle <;> rfl

/-- How a cycle begins once its text has been assembled. -/
structure Opening (Instance : Type) where
  phase : Phase
  /-- Calls on the sandbox. -/
  calls : List Call
  records : List LogRecord
  progress : Progress Instance

def Setup.opening (setup : Setup Handle Instance) (id : CycleId) (text : String) :
    Opening Instance :=
  match (setup.assembler.assemble setup.settings 0 text).binary with
  | .error d => ⟨.failed, [], [], .ended (.error ⟨.assembly, d⟩)⟩
  | .ok binary =>
      let standing := Standing.entering setup.sandbox binary
      ⟨.executing, .instantiate id binary :: standing.calls id, standing.records,
        standing.next setup.sandbox⟩

/-- The count of a text that was assembled, or was not. -/
def Stats.opened (stats : Stats) : Phase → Stats
  | .executing =>
      { stats with assemblies := stats.assemblies + 1, executions := stats.executions + 1 }
  | _ => { stats with assemblies := stats.assemblies + 1 }

@[simp] theorem Stats.opened_cyclesStarted (stats : Stats) (phase : Phase) :
    (stats.opened phase).cyclesStarted = stats.cyclesStarted := by
  cases phase <;> rfl

namespace Session

/-- The session after a cycle has begun, up to its first pause or its end. -/
def opened (setup : Setup Handle Instance) (s : Session Instance) (c : Cycle) :
    Session Instance :=
  let assembly := setup.assembler.assemble setup.settings s.created c.text
  let opening := setup.opening c.id c.text
  { s with
    stats := s.stats.opened opening.phase
    calls := s.calls ++ (assembly.calls ++ opening.calls)
    log := s.log ++ (assembly.log ++
      ⟨.trace, s!"Cycle {c.id.shown}: {c.phase.name} -> {opening.phase.name}"⟩ ::
        opening.records) }

theorem launch_eq (setup : Setup Handle Instance) (s : Session Instance) (c : Cycle) :
    s.launch setup c =
      (s.opened setup c).settle setup.settings
        { c with phase := (setup.opening c.id c.text).phase }
        (setup.opening c.id c.text).progress := by
  have same := fun serial =>
    setup.assembler.assemble_binary setup.settings serial c.text
  cases found : (setup.assembler.assemble setup.settings 0 c.text).binary with
  | error d =>
      have refused := fun serial => (same serial).trans found
      simp [launch, opened, created, Setup.opening, Stats.opened, refused, advance, note,
        settle]
  | ok binary =>
      have assembled := fun serial => (same serial).trans found
      simp only [launch, assembled, advance, note]
      change proceed setup _ _ (Standing.entering setup.sandbox binary) = _
      rw [proceed_eq]
      simp [opened, created, Setup.opening, Stats.opened, assembled]

end Session

end Rerun
