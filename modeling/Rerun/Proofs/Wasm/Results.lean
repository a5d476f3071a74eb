import Rerun.Proofs.Value.Shown
import Rerun.Wasm.Sandbox

/-! What a call of `main` gives: a scalar for each type of its results, gathered in one value.
Where the types are known and none of them is a float, the shown text tells the value. -/

namespace Rerun.Wasm

theorem referenceWord_mem (type : RefType Nat) :
    referenceWord type ∈ ["funcref", "externref", "anyref"] := by
  rw [referenceWord]
  split
  next heap _ => cases heap <;> decide
  next => decide

/-- The values of a type. -/
inductive HasType : ValType Nat → Value → Prop
  | i32 (value : Int32) : HasType .i32 (.i32 value)
  | i64 (value : Int64) : HasType .i64 (.i64 value)
  | f32 (bits : UInt32) : HasType .f32 (.f32 bits)
  | f64 (bits : UInt64) : HasType .f64 (.f64 bits)
  | v128 (bits : BitVec 128) : HasType .v128 (.v128 bits)
  | ref (type : RefType Nat) (description : String) :
      HasType (.ref type) (.reference description)

namespace HasType

variable {type : ValType Nat} {types : List (ValType Nat)} {value : Value}
  {values others : List Value}

theorem valueOf (type : ValType Nat) (bits : Nat) : HasType type (valueOf type bits) := by
  cases type <;> constructor

theorem leaves (typed : HasType type value) : value.leaves = [value] := by
  cases typed <;> simp [Value.leaves]

theorem isFilled (typed : HasType type value) : value.isFilled := by
  cases typed <;> simp [Value.isFilled]

theorem kinds (typed : List.Forall₂ HasType types values)
    (typedOthers : List.Forall₂ HasType types others) :
    values.map Value.ctorIdx = others.map Value.ctorIdx := by
  induction typed generalizing others with
  | nil =>
      cases typedOthers
      rfl
  | cons first rest ih =>
      obtain _ | ⟨other, more⟩ := typedOthers
      have same : _ = _ := ih more
      cases first <;> cases other <;> simpa [Value.ctorIdx] using same

theorem leavesAll (typed : List.Forall₂ HasType types values) :
    Value.leavesAll values = values := by
  induction typed with
  | nil => rfl
  | cons first rest ih => simp [Value.leavesAll, first.leaves, ih]

theorem allFilled (typed : List.Forall₂ HasType types values) : Value.allFilled values := by
  induction typed with
  | nil => rfl
  | cons first rest ih => simp [Value.allFilled, first.isFilled, ih]

end HasType

section Values

variable (types : List (ValType Nat)) (bits : List Nat)

@[simp] theorem length_valuesOf : (valuesOf types bits).length = types.length := by
  simp [valuesOf]

theorem getElem?_valuesOf (i : Nat) :
    (valuesOf types bits)[i]? = types[i]?.map fun type => valueOf type (bits[i]?.getD 0) := by
  simp only [valuesOf, List.getElem?_map, List.getElem?_zipIdx, Nat.zero_add, Option.map_map]
  rfl

theorem valuesOf_hasType : List.Forall₂ HasType types (valuesOf types bits) := by
  rw [List.forall₂_iff_get]
  refine ⟨(length_valuesOf types bits).symm, fun i inTypes inValues => ?_⟩
  have known : (valuesOf types bits)[i]? = some (valuesOf types bits)[i] :=
    List.getElem?_eq_getElem inValues
  rw [getElem?_valuesOf, List.getElem?_eq_getElem inTypes, Option.map_some,
    Option.some.injEq] at known
  simpa only [List.get_eq_getElem, ← known] using HasType.valueOf types[i] _

end Values

section Gathered

variable {types : List (ValType Nat)} {values others : List Value}

theorem isFilled_gathered (typed : List.Forall₂ HasType types values) :
    (gathered values).isFilled := by
  have filled := HasType.allFilled typed
  match values with
  | [] => simp [gathered, Value.isFilled]
  | [value] => simpa [gathered, Value.allFilled] using filled
  | value :: next :: rest => simpa [gathered, Value.isFilled] using filled

theorem leaves_gathered (typed : List.Forall₂ HasType types values) :
    (gathered values).leaves = if values = [] then [.void] else values := by
  have scalars := HasType.leavesAll typed
  match values with
  | [] => simp [gathered, Value.leaves]
  | [value] => simpa [gathered, Value.leavesAll] using scalars
  | value :: next :: rest => simpa [gathered, Value.leaves] using scalars

end Gathered

theorem callEntry_eq_ok_iff {entry : EntryPoint} {value : Value} :
    callEntry entry = .ok value ↔
      entry.function.type.params = [] ∧
        ∃ bits store,
          Machine.call entry.instance.program entry.instance.store entry.function =
            .ok (bits, store) ∧
          gathered (valuesOf entry.function.type.results bits) = value := by
  simp only [callEntry, List.isEmpty_iff]
  by_cases none : entry.function.type.params = []
  · rw [if_pos none]
    cases Machine.call entry.instance.program entry.instance.store entry.function with
    | error t => simp
    | ok result =>
        obtain ⟨bits, store⟩ := result
        simp [none]
  · simp [none]

theorem callEntry_eq_error_iff {entry : EntryPoint} {d : Diagnostic} :
    callEntry entry = .error d ↔
      if entry.function.type.params = [] then
        ∃ t, Machine.call entry.instance.program entry.instance.store entry.function =
          .error t ∧ d = .plain t.message
      else d = .plain s!"expected {entry.function.type.params.length} arguments, got 0" := by
  simp only [callEntry, List.isEmpty_iff]
  split
  · cases Machine.call entry.instance.program entry.instance.store entry.function with
    | error t => simp [eq_comm]
    | ok result => simp
  · simp [eq_comm]

/-! What is shown -/

/-- No type in the list is a float. -/
def Whole (types : List (ValType Nat)) : Prop := .f32 ∉ types ∧ .f64 ∉ types

section Shown

variable {types : List (ValType Nat)} (whole : Whole types) (bits others : List Nat)

include whole in
theorem isPlain_of_mem_valuesOf {value : Value} (member : value ∈ valuesOf types bits) :
    value.isPlain := by
  obtain ⟨⟨type, i⟩, isType, rfl⟩ := List.mem_map.mp member
  have known : type ∈ types := List.mem_of_getElem? (List.mk_mem_zipIdx_iff_getElem?.mp isType)
  cases type with
  | f32 => exact absurd known whole.1
  | f64 => exact absurd known whole.2
  | i32 | i64 | v128 => rfl
  | ref type =>
      have plain : ∀ word ∈ ["funcref", "externref", "anyref"],
          (Value.reference word).isPlain := by decide
      dsimp only [valueOf]
      split
      · rfl
      · exact plain _ (referenceWord_mem type)

include whole in
theorem isPlain_of_leaf {leaf : Value}
    (member : leaf ∈ (gathered (valuesOf types bits)).leaves) : leaf.isPlain := by
  rw [leaves_gathered (valuesOf_hasType types bits)] at member
  split at member
  next =>
    rw [List.mem_singleton.mp member]
    rfl
  next => exact isPlain_of_mem_valuesOf whole bits member

theorem kinds_gathered (types : List (ValType Nat)) :
    (gathered (valuesOf types bits)).leaves.map Value.ctorIdx =
      (gathered (valuesOf types others)).leaves.map Value.ctorIdx := by
  have kinds := HasType.kinds (valuesOf_hasType types bits) (valuesOf_hasType types others)
  rw [leaves_gathered (valuesOf_hasType types bits),
    leaves_gathered (valuesOf_hasType types others)]
  simp only [← List.length_eq_zero_iff, length_valuesOf]
  split
  · rfl
  · exact kinds

theorem gathered_eq_of_leaves (types : List (ValType Nat))
    (same : (gathered (valuesOf types bits)).leaves =
      (gathered (valuesOf types others)).leaves) :
    gathered (valuesOf types bits) = gathered (valuesOf types others) := by
  rw [leaves_gathered (valuesOf_hasType types bits),
    leaves_gathered (valuesOf_hasType types others)] at same
  by_cases none : types = []
  · rw [none]
    rfl
  · have filled (bits : List Nat) : valuesOf types bits ≠ [] := by
      simpa [← List.length_eq_zero_iff] using none
    rw [if_neg (filled bits), if_neg (filled others)] at same
    rw [same]

include whole in
/-- Results of the same types, none of them a float, are shown alike only if they are the
same. -/
theorem shown_gathered_eq_iff :
    (gathered (valuesOf types bits)).shown = (gathered (valuesOf types others)).shown ↔
      gathered (valuesOf types bits) = gathered (valuesOf types others) := by
  constructor
  · intro same
    apply gathered_eq_of_leaves
    exact (Value.shown_eq_iff (isFilled_gathered (valuesOf_hasType types bits))
      (isFilled_gathered (valuesOf_hasType types others))
      (fun _ => isPlain_of_leaf whole bits) (fun _ => isPlain_of_leaf whole others)
      (kinds_gathered bits others types)).mp same
  · intro same
    rw [same]

end Shown

/-- What is shown of a value is what is shown of its leaves, joined by commas.  Where leaves
are of the same constructors, and are numbers that are no floats, vectors, or references
without a comma in their description, values are shown alike only if they have the same
leaves.  So a `main` without floats among its results never gives two that are shown alike. -/
theorem shown_value_tells_leaves :
    (∀ value : Value, value.isFilled →
      value.shown = ", ".intercalate (value.leaves.map Value.shown)) ∧
    (∀ value other : Value, value.isFilled → other.isFilled →
      (∀ leaf ∈ value.leaves ++ other.leaves, leaf.isPlain) →
      value.leaves.map Value.ctorIdx = other.leaves.map Value.ctorIdx →
      (value.shown = other.shown ↔ value.leaves = other.leaves)) ∧
    ∀ entry other : EntryPoint,
      entry.function.type.results = other.function.type.results →
      Whole entry.function.type.results →
      ∀ value found, callEntry entry = .ok value → callEntry other = .ok found →
        (value.shown = found.shown ↔ value = found) := by
  refine ⟨fun value filled => Value.shown_eq_join filled, ?_, ?_⟩
  · intro value other filled filledOther plain kinds
    rw [List.forall_mem_append] at plain
    exact Value.shown_eq_iff filled filledOther plain.1 plain.2 kinds
  · intro entry other types whole value found returned returnedOther
    obtain ⟨-, bits, -, -, rfl⟩ := callEntry_eq_ok_iff.mp returned
    obtain ⟨-, others, -, -, rfl⟩ := callEntry_eq_ok_iff.mp returnedOther
    rw [← types]
    exact shown_gathered_eq_iff whole bits others

/-- A `main` that gives a number and a vector. -/
def pairing (n : Nat) : EntryPoint :=
  ⟨⟨⟨#[], #[]⟩, {}, []⟩,
    { type := ⟨[], [.i64, .v128]⟩
      locals := 0
      body :=
        [ .instr ⟨⟨"i64.const", none, 0x42, .const .i64⟩, .bits n⟩,
          .instr ⟨⟨"v128.const", some 0xfd, 12, .const .v128⟩, .bits 5⟩ ] }⟩

/-- A sign tells two numbers apart, whatever the nesting. -/
theorem shown_value_tells_leaves_signed :
    let value : Value := .multiple [.i32 (-1), .multiple [.reference "null", .v128 5]]
    let other : Value := .multiple [.multiple [.i32 1, .reference "null"], .v128 5]
    let first := pairing 7
    let second := pairing (Nat.pow 2 64 - 7)
    value.isFilled ∧ other.isFilled ∧
      (∀ leaf ∈ value.leaves ++ other.leaves, leaf.isPlain) ∧
      value.leaves.map Value.ctorIdx = other.leaves.map Value.ctorIdx ∧
      value.shown = ", ".intercalate (value.leaves.map Value.shown) ∧
      value.shown ≠ other.shown ∧
      first.function.type.results = second.function.type.results ∧
      Whole first.function.type.results ∧
      callEntry first = .ok (.multiple [.i64 7, .v128 5]) ∧
      callEntry second = .ok (.multiple [.i64 (-7), .v128 5]) ∧
      (Value.multiple [.i64 7, .v128 5]).shown ≠ (Value.multiple [.i64 (-7), .v128 5]).shown := by
  intro value other first second
  have filled : value.isFilled := by decide
  have filledOther : other.isFilled := by decide
  have plain : ∀ leaf ∈ value.leaves ++ other.leaves, leaf.isPlain := by
    simp [value, other, Value.leaves, Value.leavesAll, Value.isPlain]
  have kinds : value.leaves.map Value.ctorIdx = other.leaves.map Value.ctorIdx := rfl
  have whole : Whole first.function.type.results := by
    simp [Whole, first, pairing]
  have returned : callEntry first = .ok (.multiple [.i64 7, .v128 5]) := rfl
  have returnedOther : callEntry second = .ok (.multiple [.i64 (-7), .v128 5]) := rfl
  obtain ⟨joined, told, returns⟩ := shown_value_tells_leaves
  refine ⟨filled, filledOther, plain, kinds, joined value filled, ?_, rfl, whole, returned,
    returnedOther, ?_⟩
  · rw [ne_eq, told value other filled filledOther plain kinds]
    simp [value, other, Value.leaves, Value.leavesAll]
  · rw [ne_eq, returns first second rfl whole _ _ returned returnedOther]
    simp

end Rerun.Wasm
