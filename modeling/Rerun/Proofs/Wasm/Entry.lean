import Rerun.Proofs.Wasm.Results
import Rerun.Proofs.Wasm.Validated

/-! How a run of bytes ends.  Whatever keeps its `main` from being called is told as a failure
to instantiate, whatever goes wrong from then on as one at run time, and what is returned has
the shape of the results of `main`. -/

namespace Rerun.Wasm

/-! Entering -/

/-- Why the `main` of bytes is not called, by the first step that fails. -/
inductive Refusal (bytes : ByteArray) : String → Prop
  | load {e : LoadError} (failed : load bytes = .error e) : Refusal bytes e.message
  | start {m : Module} {e : InstantiationError} (loaded : load bytes = .ok m)
      (failed : Instance.ofModule m = .error e) : Refusal bytes e.message
  | missing {m : Module} {i : Instance} (loaded : load bytes = .ok m)
      (started : Instance.ofModule m = .ok i) (absent : ∀ e ∈ i.exports, e.name ≠ "main") :
      Refusal bytes "module does not export a `main` function"
  | notFunction {m : Module} {i : Instance} {e : Export} (loaded : load bytes = .ok m)
      (started : Instance.ofModule m = .ok i) (member : e ∈ i.exports) (named : e.name = "main")
      (other : e.kind ≠ .func) : Refusal bytes "export `main` is not a function"

/-- The instance that bytes become, and its `main`. -/
inductive Enters (bytes : ByteArray) : Instance → Function → Prop
  | main {m : Module} {i : Instance} {e : Export} {f : Function} (loaded : load bytes = .ok m)
      (started : Instance.ofModule m = .ok i) (member : e ∈ i.exports) (named : e.name = "main")
      (isFunction : e.kind = .func) (known : i.program.functions[e.index]? = some f) :
      Enters bytes i f

theorem Module.Complete.exists_function {m : Module} (complete : m.Complete)
    (alone : m.imports = []) {e : Export} (member : e ∈ m.exports) (isFunction : e.kind = .func) :
    ∃ f, (Program.ofModule m).functions[e.index]? = some f := by
  have inside := complete.exported e member isFunction
  have length : (Program.ofModule m).functions.size = m.functions.length := by
    simp [Program.ofModule, complete.bodies]
  have known : e.index < (Program.ofModule m).functions.size := by
    simpa [length, Module.imported, alone] using inside
  exact ⟨_, Array.getElem?_eq_getElem known⟩

theorem Module.Complete.eq_of_name {m : Module} (complete : m.Complete) {e other : Export}
    (member : e ∈ m.exports) (isOther : other ∈ m.exports) (same : e.name = other.name) :
    e = other :=
  List.inj_on_of_nodup_map complete.distinct member isOther same

theorem Instance.spec_ofModule {m : Module} {i : Instance} (started : ofModule m = .ok i) :
    m.imports = [] ∧ i.program = Program.ofModule m ∧ i.exports = m.exports := by
  simp only [ofModule] at started
  split at started
  next alone =>
    split at started
    next =>
      cases started
      exact ⟨List.isEmpty_iff.mp alone, rfl, rfl⟩
    next => cases started
  next => cases started

/-- The export that is found is the only one of its name. -/
theorem find?_main {m : Module} (complete : m.Complete) {e : Export} (member : e ∈ m.exports)
    (named : e.name = "main") : m.exports.find? (·.name == entryName) = some e := by
  cases found : m.exports.find? (·.name == entryName) with
  | none => exact absurd (beq_iff_eq.mpr named) (List.find?_eq_none.mp found e member)
  | some other =>
      have same : other.name = "main" := by
        simpa [entryName] using List.find?_some found
      rw [complete.eq_of_name member (List.mem_of_find?_eq_some found) (named.trans same.symm)]

theorem message_missing :
    EntryError.missing.message = "module does not export a `main` function" := rfl

theorem message_notFunction : EntryError.notFunction.message = "export `main` is not a function" :=
  rfl

theorem enter_eq (bytes : ByteArray) :
    enter bytes =
      match load bytes with
      | .error e => .error (.plain e.message)
      | .ok m => m.enter := rfl

theorem enter_of_refusal {bytes : ByteArray} {text : String} (refusal : Refusal bytes text) :
    enter bytes = .error (.plain text) := by
  cases refusal with
  | load failed => rw [enter_eq, failed]
  | start loaded failed => simp only [enter_eq, loaded, Module.enter, failed]
  | @missing m i loaded started absent =>
      have none : i.exports.find? (·.name == entryName) = none := by
        simpa [List.find?_eq_none, entryName] using absent
      simp only [enter_eq, loaded, Module.enter, started, EntryPoint.ofInstance, none,
        message_missing]
  | @notFunction m i e loaded started member named other =>
      obtain ⟨-, -, exports⟩ := Instance.spec_ofModule started
      rw [exports] at member
      have found := find?_main (complete_of_load loaded) member named
      simp only [enter_eq, loaded, Module.enter, started, EntryPoint.ofInstance, exports, found,
        if_neg other, message_notFunction]

theorem enter_of_enters {bytes : ByteArray} {i : Instance} {f : Function}
    (enters : Enters bytes i f) : enter bytes = .ok ⟨i, f⟩ := by
  obtain ⟨loaded, started, member, named, isFunction, known⟩ := enters
  obtain ⟨-, -, exports⟩ := Instance.spec_ofModule started
  rw [exports] at member
  have found := find?_main (complete_of_load loaded) member named
  simp only [enter_eq, loaded, Module.enter, started, EntryPoint.ofInstance, exports, found,
    if_pos isFunction, known]

theorem refusal_or_enters (bytes : ByteArray) :
    (∃ text, Refusal bytes text) ∨ ∃ i f, Enters bytes i f := by
  cases loaded : load bytes with
  | error e => exact .inl ⟨_, .load loaded⟩
  | ok m =>
      cases started : Instance.ofModule m with
      | error e => exact .inl ⟨_, .start loaded started⟩
      | ok i =>
          by_cases present : ∃ e ∈ i.exports, e.name = "main"
          · obtain ⟨e, member, named⟩ := present
            by_cases isFunction : e.kind = .func
            · obtain ⟨alone, program, exports⟩ := Instance.spec_ofModule started
              obtain ⟨f, known⟩ := (complete_of_load loaded).exists_function alone
                (exports ▸ member) isFunction
              rw [← program] at known
              exact .inr ⟨i, f, .main loaded started member named isFunction known⟩
            · exact .inl ⟨_, .notFunction loaded started member named isFunction⟩
          · refine .inl ⟨_, .missing loaded started ?_⟩
            exact fun e member named => present ⟨e, member, named⟩

theorem enter_eq_error_iff {bytes : ByteArray} {d : Diagnostic} :
    enter bytes = .error d ↔ ∃ text, Refusal bytes text ∧ d = .plain text := by
  constructor
  · intro failed
    obtain ⟨text, refusal⟩ | ⟨i, f, enters⟩ := refusal_or_enters bytes
    · rw [enter_of_refusal refusal] at failed
      exact ⟨text, refusal, (Except.error.inj failed).symm⟩
    · rw [enter_of_enters enters] at failed
      cases failed
  · rintro ⟨text, refusal, rfl⟩
    exact enter_of_refusal refusal

theorem enter_eq_ok_iff {bytes : ByteArray} {entry : EntryPoint} :
    enter bytes = .ok entry ↔ Enters bytes entry.instance entry.function := by
  constructor
  · intro entered
    obtain ⟨text, refusal⟩ | ⟨i, f, enters⟩ := refusal_or_enters bytes
    · rw [enter_of_refusal refusal] at entered
      cases entered
    · rw [enter_of_enters enters] at entered
      cases entered
      exact enters
  · exact enter_of_enters

/-! The outcome -/

section Outcome

variable {id : CycleId} {bytes : ByteArray}

theorem outcome_eq (id : CycleId) (bytes : ByteArray) :
    (sandbox.run id bytes).outcome =
      match enter bytes with
      | .error d => .error ⟨.instantiation, d⟩
      | .ok entry =>
          match callEntry entry with
          | .error d => .error ⟨.runtime, d⟩
          | .ok value => .ok value := by
  simp only [enter, Sandbox.run, sandbox, Loader.sandbox, Pausing.result]
  cases engine.enter bytes <;> rfl

theorem outcome_eq_instantiation_iff {d : Diagnostic} :
    (sandbox.run id bytes).outcome = .error ⟨.instantiation, d⟩ ↔ enter bytes = .error d := by
  rw [outcome_eq]
  cases enter bytes with
  | error e => simp
  | ok entry => cases called : callEntry entry <;> simp [called]

theorem outcome_eq_runtime_iff {d : Diagnostic} :
    (sandbox.run id bytes).outcome = .error ⟨.runtime, d⟩ ↔
      ∃ entry, enter bytes = .ok entry ∧ callEntry entry = .error d := by
  rw [outcome_eq]
  cases enter bytes with
  | error e => simp
  | ok entry => cases called : callEntry entry <;> simp [called]

theorem outcome_eq_ok_iff {value : Value} :
    (sandbox.run id bytes).outcome = .ok value ↔
      ∃ entry, enter bytes = .ok entry ∧ callEntry entry = .ok value := by
  rw [outcome_eq]
  cases enter bytes with
  | error e => simp
  | ok entry => cases called : callEntry entry <;> simp [called]

theorem outcome_ne_assembly {d : Diagnostic} :
    (sandbox.run id bytes).outcome ≠ .error ⟨.assembly, d⟩ := by
  rw [outcome_eq]
  cases enter bytes with
  | error e => simp
  | ok entry => cases called : callEntry entry <;> simp [called]

end Outcome

/-! The shape of a value -/

/-- The values of a list, a single value by itself, and none where there is nothing. -/
def parts : Value → List Value
  | .void => []
  | .multiple values => values
  | value => [value]

/-- A value for results of these types: nothing for none, a scalar for one, and otherwise a
list of as many scalars. -/
structure Shaped (types : List (ValType Nat)) (value : Value) : Prop where
  void : value = .void ↔ types = []
  single : (∃ type, HasType type value) ↔ ∃ type, types = [type]
  multiple : (∃ values, value = .multiple values) ↔ 2 ≤ types.length
  typed : List.Forall₂ HasType types (parts value)

theorem HasType.parts {type : ValType Nat} {value : Value} (typed : HasType type value) :
    parts value = [value] := by
  cases typed <;> rfl

theorem shaped_gathered {types : List (ValType Nat)} {values : List Value}
    (typed : List.Forall₂ HasType types values) : Shaped types (gathered values) := by
  cases typed with
  | nil =>
      refine ⟨by simp [gathered], ⟨?_, by simp⟩, by simp [gathered], .nil⟩
      rintro ⟨type, scalar⟩
      cases scalar
  | @cons type value _ _ first rest =>
      cases rest with
      | nil =>
          refine ⟨⟨?_, by simp⟩, ⟨fun _ => ⟨type, rfl⟩, fun _ => ⟨type, first⟩⟩, ⟨?_, by simp⟩, ?_⟩
          · rintro rfl
            cases first
          · rintro ⟨values, rfl⟩
            cases first
          · rw [gathered, first.parts]
            exact .cons first .nil
      | cons second rest =>
          refine ⟨by simp [gathered], ⟨?_, by simp⟩, ⟨fun _ => by simp, fun _ => ⟨_, rfl⟩⟩, ?_⟩
          · rintro ⟨type, list⟩
            cases list
          · exact .cons first (.cons second rest)

/-- A list of values is never short, and holds scalars only. -/
theorem Shaped.scalars {types : List (ValType Nat)} {values : List Value}
    (shaped : Shaped types (.multiple values)) :
    2 ≤ values.length ∧ ∀ part ∈ values, ∃ type, HasType type part := by
  have many := shaped.multiple.mp ⟨values, rfl⟩
  have typed : List.Forall₂ HasType types values := shaped.typed
  refine ⟨typed.length_eq ▸ many, ?_⟩
  intro part member
  obtain ⟨n, inside, rfl⟩ := List.mem_iff_getElem.mp member
  exact ⟨_, typed.get (typed.length_eq ▸ inside) inside⟩

/-- The stage that is told is the one that failed.  Bytes are not assembled here.  They fail to
instantiate when they are not loaded, when their instance does not come to life, or when it
has no `main` or one that is no function, and the first of these gives the message.  Else they
fail at run time when `main` cannot be called without arguments or does not return.  Else they
give what it returns: nothing, one scalar, or a list of two or more, just as its type has
results. -/
theorem outcome_tells_stage_and_shape (id : CycleId) (bytes : ByteArray) :
    (∀ d, (sandbox.run id bytes).outcome ≠ .error ⟨.assembly, d⟩) ∧
    (∀ d, (sandbox.run id bytes).outcome = .error ⟨.instantiation, d⟩ ↔
      ∃ text, Refusal bytes text ∧ d = .plain text) ∧
    (∀ d, (sandbox.run id bytes).outcome = .error ⟨.runtime, d⟩ ↔
      ∃ i f, Enters bytes i f ∧
        if f.type.params = [] then
          ∃ t, Machine.call i.program i.store f = .error t ∧ d = .plain t.message
        else d = .plain s!"expected {f.type.params.length} arguments, got 0") ∧
    (∀ value, (sandbox.run id bytes).outcome = .ok value ↔
      ∃ i f, Enters bytes i f ∧ f.type.params = [] ∧
        ∃ bits store, Machine.call i.program i.store f = .ok (bits, store) ∧
          gathered (valuesOf f.type.results bits) = value) ∧
    ∀ i f value, Enters bytes i f → (sandbox.run id bytes).outcome = .ok value →
      Shaped f.type.results value ∧
        ∀ values, value = .multiple values →
          2 ≤ values.length ∧ ∀ part ∈ values, ∃ type, HasType type part := by
  refine ⟨fun d => outcome_ne_assembly, fun d => ?_, fun d => ?_, fun value => ?_, ?_⟩
  · rw [outcome_eq_instantiation_iff, enter_eq_error_iff]
  · simp only [outcome_eq_runtime_iff, enter_eq_ok_iff, callEntry_eq_error_iff]
    constructor
    · rintro ⟨⟨i, f⟩, failed⟩
      exact ⟨i, f, failed⟩
    · rintro ⟨i, f, failed⟩
      exact ⟨⟨i, f⟩, failed⟩
  · simp only [outcome_eq_ok_iff, enter_eq_ok_iff, callEntry_eq_ok_iff]
    constructor
    · rintro ⟨⟨i, f⟩, returned⟩
      exact ⟨i, f, returned⟩
    · rintro ⟨i, f, returned⟩
      exact ⟨⟨i, f⟩, returned⟩
  · intro i f value enters returned
    obtain ⟨entry, entered, called⟩ := outcome_eq_ok_iff.mp returned
    rw [enter_of_enters enters] at entered
    cases entered
    obtain ⟨-, bits, store, -, rfl⟩ := callEntry_eq_ok_iff.mp called
    have shaped := shaped_gathered (valuesOf_hasType f.type.results bits)
    refine ⟨shaped, ?_⟩
    intro values isList
    rw [isList] at shaped
    exact shaped.scalars

/-- A module whose `main` gives two numbers. -/
def pairBinary : ByteArray :=
  ⟨#[0x00, 0x61, 0x73, 0x6d, 0x01, 0x00, 0x00, 0x00,
    0x01, 0x06, 0x01, 0x60, 0x00, 0x02, 0x7f, 0x7e,
    0x03, 0x02, 0x01, 0x00,
    0x07, 0x08, 0x01, 0x04, 0x6d, 0x61, 0x69, 0x6e, 0x00, 0x00,
    0x0a, 0x08, 0x01, 0x06, 0x00, 0x41, 0x01, 0x42, 0x7e, 0x0b]⟩

/-- A module without a `main` whose start function traps. -/
def trapBinary : ByteArray :=
  ⟨#[0x00, 0x61, 0x73, 0x6d, 0x01, 0x00, 0x00, 0x00,
    0x01, 0x04, 0x01, 0x60, 0x00, 0x00,
    0x03, 0x02, 0x01, 0x00,
    0x08, 0x01, 0x00,
    0x0a, 0x05, 0x01, 0x03, 0x00, 0x00, 0x0b]⟩

set_option maxRecDepth 10000 in
private theorem pairBinary_returns :
    (match (sandbox.run 0 pairBinary).outcome with
      | .ok (.multiple [.i32 n, .i64 k]) => n == 1 && k == -2
      | _ => false) = true := by
  decide +kernel

set_option maxRecDepth 10000 in
private theorem trapBinary_fails :
    (match (sandbox.run 0 trapBinary).outcome with
      | .error failure =>
          failure == ⟨.instantiation, .plain "wasm trap: wasm `unreachable` instruction executed"⟩
      | .ok _ => false) = true := by
  decide +kernel

/-- Two results come as a list of two, and a start function that traps is told before the
`main` that is missing. -/
theorem pair_is_shaped_and_trap_is_told :
    (∃ i f, Enters pairBinary i f ∧
      (sandbox.run 0 pairBinary).outcome = .ok (.multiple [.i32 1, .i64 (-2)]) ∧
      Shaped f.type.results (.multiple [.i32 1, .i64 (-2)])) ∧
    Refusal trapBinary "wasm trap: wasm `unreachable` instruction executed" := by
  constructor
  · have returns := pairBinary_returns
    split at returns
    next n k returned =>
      obtain ⟨one, two⟩ : n = 1 ∧ k = -2 := by simpa using returns
      subst one two
      obtain ⟨-, -, -, ok, shaped⟩ := outcome_tells_stage_and_shape 0 pairBinary
      obtain ⟨i, f, enters, -⟩ := (ok _).mp returned
      exact ⟨i, f, enters, returned, (shaped i f _ enters returned).1⟩
    next => cases returns
  · have fails := trapBinary_fails
    split at fails
    next failure failed =>
      rw [beq_iff_eq.mp fails] at failed
      obtain ⟨-, instantiation, -⟩ := outcome_tells_stage_and_shape 0 trapBinary
      obtain ⟨text, refusal, same⟩ := (instantiation _).mp failed
      cases same
      exact refusal
    next => cases fails

end Rerun.Wasm
