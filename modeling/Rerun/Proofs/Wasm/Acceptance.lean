import Rerun.Wasm.Assembler
import Rerun.Wasm.Sandbox

/-! Who accepts a binary.  The tools that assemble a text and the loader that runs it are
whatever they are.  They look at a binary each on its own, and all that is relied on is that
the loader compiles nothing that is not valid.  It takes bytes that do not begin like a binary
for a text, though, and a text may spell such bytes: what is run in the end is valid, but it
need not be what was assembled. -/

namespace Rerun.Wasm

variable {tools : Toolchain} {l : Loader} {bytes binary inner : ByteArray} {m : Module}
  {entry : EntryPoint}

/-- What is relied on where a binary is run that was not validated. -/
structure Nests (tools : Toolchain) (l : Loader) : Prop where
  /-- A loader compiles a binary only if it is valid for who knows what the engine knows. -/
  checked : ∀ {binary m}, l.compile binary = .ok m → tools.check engineKnows binary = .ok ()
  /-- A binary that is valid stays so for who knows more features. -/
  grows : ∀ {has more : Feature → Bool} {binary}, (∀ feature, has feature → more feature) →
    tools.check has binary = .ok () → tools.check more binary = .ok ()

theorem Nests.valid_of_compile (nests : Nests tools l) (compiled : l.compile binary = .ok m) :
    tools.check assemblerKnows binary = .ok () := by
  have fewer : ∀ feature, engineKnows feature → assemblerKnows feature := by
    intro feature known
    cases known
  exact nests.grows fewer (nests.checked compiled)

/-! Loading -/

/-- Bytes that are no binary but a text, and the binary of that text. -/
structure Spells (l : Loader) (bytes inner : ByteArray) : Prop where
  unlike : beginsLikeBinary bytes = false
  encoded : ∃ source, String.fromUTF8? bytes = some source ∧ l.encode source = .ok inner

namespace Loader

theorem load_of_begins (begins : beginsLikeBinary bytes) : l.load bytes = l.compile bytes := by
  rw [load, binaryOf, if_pos begins]
  rfl

theorem load_of_spells (spells : Spells l bytes inner) : l.load bytes = l.compile inner := by
  obtain ⟨unlike, source, decoded, encoded⟩ := spells
  have other : ¬beginsLikeBinary bytes = true := by simp [unlike]
  rw [load, binaryOf, if_neg other, decoded]
  simp only [encoded]
  rfl

theorem begins_or_spells_of_load (loaded : l.load bytes = .ok m) :
    beginsLikeBinary bytes ∨ ∃ inner, Spells l bytes inner := by
  cases begins : beginsLikeBinary bytes with
  | true => exact .inl rfl
  | false =>
      have other : ¬beginsLikeBinary bytes = true := by simp [begins]
      rw [load, binaryOf, if_neg other] at loaded
      cases decoded : String.fromUTF8? bytes with
      | none =>
          rw [decoded] at loaded
          cases loaded
      | some source =>
          cases encoded : l.encode source with
          | error fault =>
              simp only [decoded, encoded] at loaded
              cases loaded
          | ok inner => exact .inr ⟨inner, begins, source, decoded, encoded⟩

/-- The function that a binary leads to once it is compiled. -/
def Reaches (l : Loader) (binary : ByteArray) (entry : EntryPoint) : Prop :=
  ∃ m, l.compile binary = .ok m ∧ m.enter = .ok entry

theorem enter_eq_ok : l.enter bytes = .ok entry ↔ ∃ m, l.load bytes = .ok m ∧ m.enter = .ok entry := by
  rw [enter]
  cases l.load bytes with
  | error e => simp
  | ok m => simp

theorem enter_of_spells (spells : Spells l bytes inner) :
    l.enter bytes = .ok entry ↔ l.Reaches inner entry := by
  rw [enter_eq_ok, load_of_spells spells]
  rfl

/-- A binary that is not valid is entered only as the text that it spells. -/
theorem enter_eq_ok_of_invalid (nests : Nests tools l) {fault : Fault}
    (invalid : tools.check assemblerKnows bytes = .error fault) :
    l.enter bytes = .ok entry ↔ ∃ inner, Spells l bytes inner ∧ l.Reaches inner entry := by
  constructor
  · intro entered
    obtain ⟨m, loaded, -⟩ := enter_eq_ok.mp entered
    obtain begins | ⟨inner, spells⟩ := begins_or_spells_of_load loaded
    · rw [load_of_begins begins] at loaded
      rw [nests.valid_of_compile loaded] at invalid
      cases invalid
    · exact ⟨inner, spells, (enter_of_spells spells).mp entered⟩
  · rintro ⟨inner, spells, reaches⟩
    exact (enter_of_spells spells).mpr reaches

/-! Running -/

/-- Bytes are refused before anything in them is called. -/
def Refuses (l : Loader) (bytes : ByteArray) (d : Diagnostic) : Prop :=
  ∀ id, l.sandbox.run id bytes = ⟨.error ⟨.instantiation, d⟩, [.instantiate id bytes], []⟩

theorem refuses_of_enter {d : Diagnostic} (failed : l.enter bytes = .error d) :
    l.Refuses bytes d := by
  intro id
  simp [Sandbox.run, sandbox, Pausing.result, failed]

theorem callMain_mem_iff (id : CycleId) :
    .callMain id ∈ (l.sandbox.run id bytes).calls ↔ ∃ entry, l.enter bytes = .ok entry := by
  cases entered : l.enter bytes with
  | error d => simp [Sandbox.run, sandbox, Pausing.result, entered]
  | ok entry => simp [Sandbox.run, sandbox, Pausing.result, entered]

end Loader

/-- What calling the function gives. -/
def EntryPoint.outcome (entry : EntryPoint) : Outcome :=
  match callEntry entry with
  | .error d => .error ⟨.runtime, d⟩
  | .ok value => .ok value

theorem Loader.outcome_of_enter (entered : l.enter bytes = .ok entry) :
    (l.sandbox.run 0 bytes).outcome = entry.outcome := by
  simp only [Sandbox.run, sandbox, Pausing.result, entered]
  rfl

/-! Assembling and running -/

/-- The same settings, with the validation of binaries switched. -/
def validating (settings : Settings) (validate : Bool) : Settings := { settings with validate }

/-- What a text is assembled into under these settings. -/
def binaryUnder (tools : Toolchain) (settings : Settings) (text : String) :
    Except Diagnostic ByteArray :=
  (tools.assembler.assemble settings 0 text).binary

theorem binaryUnder_eq (tools : Toolchain) (settings : Settings) (text : String) :
    binaryUnder tools settings text = tools.assembleText text settings.parseOptions := by
  have parsed : tools.assembler.parse settings.moduleName text settings.parseOptions =
      tools.assembleText text settings.parseOptions := rfl
  rw [binaryUnder, Assembler.assemble, parsed]
  cases tools.assembleText text settings.parseOptions <;> rfl

/-- What becomes of a text under these settings. -/
def outcomeUnder (tools : Toolchain) (l : Loader) (settings : Settings) (text : String) :
    Outcome :=
  reference tools.assembler l.sandbox settings text

section Outcome

variable {settings : Settings} {text : String}

theorem outcomeUnder_of_error {d : Diagnostic}
    (failed : binaryUnder tools settings text = .error d) :
    outcomeUnder tools l settings text = .error ⟨.assembly, d⟩ := by
  rw [binaryUnder] at failed
  rw [outcomeUnder, reference, failed]

theorem outcomeUnder_of_ok (assembled : binaryUnder tools settings text = .ok binary) :
    outcomeUnder tools l settings text = (l.sandbox.run 0 binary).outcome := by
  rw [binaryUnder] at assembled
  rw [outcomeUnder, reference, assembled]

end Outcome

section Switching

variable (settings : Settings) {text : String}

theorem binaryUnder_of_faulty (validate : Bool) {fault : Text.TextFault}
    (faulty : tools.encode text = .error fault) :
    binaryUnder tools (validating settings validate) text = .error (fault.within text) := by
  rw [binaryUnder_eq, Toolchain.assembleText, faulty]

theorem binaryUnder_lenient (encoded : tools.encode text = .ok binary) :
    binaryUnder tools (validating settings false) text = .ok binary := by
  rw [binaryUnder_eq, Toolchain.assembleText, encoded]
  rfl

theorem binaryUnder_strict (encoded : tools.encode text = .ok binary) :
    binaryUnder tools (validating settings true) text = tools.validated binary := by
  rw [binaryUnder_eq, Toolchain.assembleText, encoded]
  rfl

end Switching

/-- What becomes of a binary that is not valid where nobody has checked it. -/
structure Postponed (tools : Toolchain) (l : Loader) (binary : ByteArray) (outcome : Outcome) :
    Prop where
  /-- Its `main` is called only if it spells a text, and then it is the `main` of that text. -/
  called : ∀ id, .callMain id ∈ (l.sandbox.run id binary).calls ↔
    ∃ inner entry, Spells l binary inner ∧ l.Reaches inner entry
  /-- Else it is refused before anything in it is called. -/
  refused : (¬∃ inner entry, Spells l binary inner ∧ l.Reaches inner entry) →
    ∃ d, l.Refuses binary d ∧ outcome = .error ⟨.instantiation, d⟩
  /-- The text that it spells has a valid binary. -/
  spelled : ∀ inner entry, Spells l binary inner → l.Reaches inner entry →
    tools.check assemblerKnows inner = .ok () ∧ outcome = entry.outcome

theorem postponed_of_invalid (nests : Nests tools l) {fault : Fault}
    (invalid : tools.check assemblerKnows binary = .error fault) :
    Postponed tools l binary (l.sandbox.run 0 binary).outcome where
  called id := by
    simp only [Loader.callMain_mem_iff, Loader.enter_eq_ok_of_invalid nests invalid]
    exact exists_comm
  refused unspelled := by
    cases entered : l.enter binary with
    | error d =>
        have refuses := Loader.refuses_of_enter entered
        exact ⟨d, refuses, by rw [refuses 0]⟩
    | ok entry =>
        obtain ⟨inner, found⟩ := (Loader.enter_eq_ok_of_invalid nests invalid).mp entered
        exact absurd ⟨inner, entry, found⟩ unspelled
  spelled inner entry spells reaches := by
    obtain ⟨m, compiled, entered⟩ := reaches
    have reaches : l.Reaches inner entry := ⟨m, compiled, entered⟩
    exact ⟨nests.valid_of_compile compiled,
      Loader.outcome_of_enter ((Loader.enter_of_spells spells).mpr reaches)⟩

/-- Doing without validation postpones a refusal, but for one case.  A faulty text stays faulty
at the same place, and a valid binary gives what it gives.  A binary that is not valid is
refused as soon as it is to be entered, except where it does not begin like a binary and spells
a text with a `main`: then that `main` is called. -/
theorem lenience_postpones_refusal (nests : Nests tools l) (settings : Settings)
    (text : String) :
    let strict := validating settings true
    let lenient := validating settings false
    match tools.encode text with
    | .error fault =>
        (fault.within text).place.isSome ∧
          ∀ validate,
            binaryUnder tools (validating settings validate) text = .error (fault.within text) ∧
            outcomeUnder tools l (validating settings validate) text =
              .error ⟨.assembly, fault.within text⟩
    | .ok binary =>
        binaryUnder tools lenient text = .ok binary ∧
          match tools.check assemblerKnows binary with
          | .ok () =>
              binaryUnder tools strict text = .ok binary ∧
                outcomeUnder tools l lenient text = outcomeUnder tools l strict text
          | .error fault =>
              binaryUnder tools strict text = .error fault.inBinary ∧
                fault.inBinary.place = none ∧
                outcomeUnder tools l strict text = .error ⟨.assembly, fault.inBinary⟩ ∧
                Postponed tools l binary (outcomeUnder tools l lenient text) := by
  intro strict lenient
  cases encoded : tools.encode text with
  | error fault =>
      refine ⟨rfl, fun validate => ?_⟩
      have failed := binaryUnder_of_faulty settings validate encoded
      exact ⟨failed, outcomeUnder_of_error failed⟩
  | ok binary =>
      have unchecked : binaryUnder tools lenient text = .ok binary :=
        binaryUnder_lenient settings encoded
      have checked : binaryUnder tools strict text = tools.validated binary :=
        binaryUnder_strict settings encoded
      refine ⟨unchecked, ?_⟩
      rw [Toolchain.validated] at checked
      cases verdict : tools.check assemblerKnows binary with
      | ok valid =>
          rw [verdict] at checked
          exact ⟨checked,
            (outcomeUnder_of_ok unchecked).trans (outcomeUnder_of_ok checked).symm⟩
      | error fault =>
          rw [verdict] at checked
          refine ⟨checked, rfl, outcomeUnder_of_error checked, ?_⟩
          rw [outcomeUnder_of_ok unchecked]
          exact postponed_of_invalid nests verdict

/-! The tools and the engine at hand -/

namespace Verdict

variable {has more : Feature → Bool} {found : Encoding × List Module}

/-- Who knows more features accepts whatever one accepts who knows fewer. -/
theorem judge_mono {v : Verdict} (grows : ∀ feature, has feature → more feature)
    (accepted : v.judge has = .ok found) : v.judge more = .ok found := by
  simp only [judge] at accepted ⊢
  split at accepted
  next => cases accepted
  next demanded =>
      have content : v.demands.find? (fun d => !more d.feature) = none := by
        rw [List.find?_eq_none] at demanded ⊢
        intro d member
        have known : has d.feature := by simpa using demanded d member
        simpa using grows _ known
      rw [content]
      exact accepted

end Verdict

theorem toolchain_check_eq_ok {has : Feature → Bool} :
    toolchain.check has binary = .ok () ↔
      ∃ found, (Verdict.ofBinary binary).judge has = .ok found := by
  cases judged : (Verdict.ofBinary binary).judge has with
  | error fault => simp [toolchain, judged, Except.map]
  | ok found => simp [toolchain, judged, Except.map]

theorem nests_engine : Nests toolchain engine where
  checked := by
    intro binary m compiled
    have loaded : loadBinary binary = .ok m := compiled
    rw [loadBinary] at loaded
    split at loaded
    next => cases loaded
    next =>
      split at loaded
      next => cases loaded
      next accepted => exact toolchain_check_eq_ok.mpr ⟨_, accepted⟩
      next => cases loaded
  grows more valid := by
    obtain ⟨found, accepted⟩ := toolchain_check_eq_ok.mp valid
    exact toolchain_check_eq_ok.mpr ⟨found, Verdict.judge_mono more accepted⟩

/-- A `main` that does not give the number that it says. -/
def illTypedText : String := "(module (func (export \"main\") (result i32)))"

set_option maxRecDepth 10000 in
private theorem illTypedText_invalid :
    (match toolchain.encode illTypedText with
      | .error _ => false
      | .ok binary =>
          beginsLikeBinary binary && !(toolchain.check assemblerKnows binary).isOk) = true := by
  decide +kernel

/-- The validating run refuses it for its binary, and the other when it is to be
instantiated. -/
theorem lenience_postpones_refusal_ill_typed :
    ∃ binary d e,
      binaryUnder toolchain (validating {} true) illTypedText = .error d ∧ d.place = none ∧
      binaryUnder toolchain (validating {} false) illTypedText = .ok binary ∧
      engine.Refuses binary e ∧
      outcomeUnder toolchain engine (validating {} false) illTypedText =
        .error ⟨.instantiation, e⟩ := by
  have invalid := illTypedText_invalid
  -- All that counts of the text is now in this fact, and the text is not to be encoded again.
  generalize illTypedText = text at invalid ⊢
  split at invalid
  next => cases invalid
  next binary encoded =>
    obtain ⟨begins, refused⟩ := Bool.and_eq_true_iff.mp invalid
    have runs := lenience_postpones_refusal nests_engine {} text
    rw [encoded] at runs
    obtain ⟨lenient, runs⟩ := runs
    cases verdict : toolchain.check assemblerKnows binary with
    | ok valid =>
        rw [verdict] at refused
        cases refused
    | error fault =>
        rw [verdict] at runs
        obtain ⟨strict, placeless, -, postponed⟩ := runs
        have unspelled : ¬∃ inner entry, Spells engine binary inner ∧
            engine.Reaches inner entry := by
          rintro ⟨inner, entry, ⟨unlike, -⟩, -⟩
          rw [begins] at unlike
          cases unlike
        obtain ⟨e, refuses, outcome⟩ := postponed.refused unspelled
        exact ⟨binary, _, e, strict, placeless, lenient, refuses, outcome⟩

/-- A text whose binary is no binary, but a text with a `main`. -/
def spellingText : String := "(module binary \"(module (func (export \\\"main\\\")))\")"

set_option maxRecDepth 10000 in
private theorem spellingText_invalid :
    (match binaryUnder toolchain (validating {} true) spellingText with
      | .ok _ => false
      | .error d => d.place.isNone) = true := by
  decide +kernel

set_option maxRecDepth 10000 in
private theorem spellingText_returns :
    (outcomeUnder toolchain engine (validating {} false) spellingText).isOk = true := by
  decide +kernel

/-- The validating run refuses it for its binary, and the other calls its `main`, which
returns. -/
theorem spelled_main_is_called :
    ∃ d binary value,
      binaryUnder toolchain (validating {} true) spellingText = .error d ∧ d.place = none ∧
      binaryUnder toolchain (validating {} false) spellingText = .ok binary ∧
      .callMain 0 ∈ (sandbox.run 0 binary).calls ∧
      outcomeUnder toolchain engine (validating {} false) spellingText = .ok value := by
  have invalid := spellingText_invalid
  have returns := spellingText_returns
  split at invalid
  next => cases invalid
  next d strict =>
    cases lenient : binaryUnder toolchain (validating {} false) spellingText with
    | error e =>
        rw [outcomeUnder_of_error lenient] at returns
        cases returns
    | ok binary =>
        cases returned : outcomeUnder toolchain engine (validating {} false) spellingText with
        | error failure =>
            rw [returned] at returns
            cases returns
        | ok value =>
            have ran := (outcomeUnder_of_ok lenient).symm.trans returned
            have called : .callMain 0 ∈ (engine.sandbox.run 0 binary).calls := by
              rw [Loader.callMain_mem_iff]
              cases entered : engine.enter binary with
              | ok entry => exact ⟨entry, rfl⟩
              | error e =>
                  rw [Loader.refuses_of_enter entered 0] at ran
                  cases ran
            exact ⟨d, binary, value, strict, Option.isNone_iff_eq_none.mp invalid, rfl, called,
              rfl⟩

end Rerun.Wasm
