import Rerun.Proofs.Toml.Keys
import Rerun.Settings.Load

/-! The settings one by one: the key of each, what it holds, and which values in a document
stand for that. -/

namespace Rerun.Settings

open Toml (Entries Key Node)

inductive Field
  | moduleName | frameIntervalMs | reportPolicy | errorPrefix | validate | fuelYieldInterval
deriving DecidableEq, Repr

namespace Field

def key : Field → String
  | moduleName => "module_name"
  | frameIntervalMs => "frame_interval_ms"
  | reportPolicy => "report_policy"
  | errorPrefix => "error_prefix"
  | validate => "validate"
  | fuelYieldInterval => "fuel_yield_interval"

def Content : Field → Type
  | moduleName | errorPrefix => String
  | frameIntervalMs | fuelYieldInterval => Nat
  | reportPolicy => ReportPolicy
  | validate => Bool

def get : (f : Field) → Settings → f.Content
  | moduleName, s => s.moduleName
  | frameIntervalMs, s => s.frameIntervalMs
  | reportPolicy, s => s.reportPolicy
  | errorPrefix, s => s.errorPrefix
  | validate, s => s.validate
  | fuelYieldInterval, s => s.fuelYieldInterval

def put : (f : Field) → f.Content → Settings → Settings
  | moduleName, text, s => { s with moduleName := text }
  | frameIntervalMs, n, s => { s with frameIntervalMs := n }
  | reportPolicy, policy, s => { s with reportPolicy := policy }
  | errorPrefix, text, s => { s with errorPrefix := text }
  | validate, b, s => { s with validate := b }
  | fuelYieldInterval, n, s => { s with fuelYieldInterval := n }

def decode : (f : Field) → Decoder f.Content
  | moduleName | errorPrefix => text
  | frameIntervalMs | fuelYieldInterval => count
  | reportPolicy => policy
  | validate => flag

@[simp] theorem get_put (f : Field) (content : f.Content) (s : Settings) :
    f.get (f.put content s) = content := by
  cases f <;> rfl

theorem get_put_of_ne {f g : Field} (different : f ≠ g) (content : f.Content) (s : Settings) :
    g.get (f.put content s) = g.get s := by
  cases f <;> cases g <;> first | rfl | exact absurd rfl different

theorem key_injective {f g : Field} (same : f.key = g.key) : f = g := by
  revert same
  cases f <;> cases g <;> decide

theorem mem_fieldNames_iff {name : String} : name ∈ fieldNames ↔ ∃ f : Field, f.key = name := by
  constructor
  · intro known
    simp only [fieldNames, List.mem_cons, List.not_mem_nil, or_false] at known
    rcases known with rfl | rfl | rfl | rfl | rfl | rfl
    · exact ⟨moduleName, rfl⟩
    · exact ⟨frameIntervalMs, rfl⟩
    · exact ⟨reportPolicy, rfl⟩
    · exact ⟨errorPrefix, rfl⟩
    · exact ⟨validate, rfl⟩
    · exact ⟨fuelYieldInterval, rfl⟩
  · rintro ⟨f, rfl⟩
    cases f <;> decide

end Field

/-- Settings are known by what each of them is. -/
theorem eq_of_get {s t : Settings} (same : ∀ f : Field, f.get s = f.get t) : s = t := by
  obtain ⟨moduleName, frameIntervalMs, reportPolicy, errorPrefix, validate, fuel⟩ := s
  cases same .moduleName
  cases same .frameIntervalMs
  cases same .reportPolicy
  cases same .errorPrefix
  cases same .validate
  cases same .fuelYieldInterval
  rfl

/-! Values that stand for a setting -/

theorem text_eq_ok_iff {node : Node} {found : String} :
    text node = .ok found ↔ ∃ span, node = .string found span := by
  cases node <;> simp [text, wrongType]

theorem flag_eq_ok_iff {node : Node} {found : Bool} :
    flag node = .ok found ↔ ∃ span, node = .boolean found span := by
  cases node <;> simp [flag, wrongType]

theorem count_eq_ok_iff {node : Node} {found : Nat} :
    count node = .ok found ↔ ∃ span, node = .integer found span := by
  cases node with
  | integer value span =>
      simp only [count, Node.integer.injEq]
      split
      next negative =>
        constructor
        · intro impossible
          cases impossible
        · rintro ⟨_, rfl, _⟩
          omega
      next natural =>
        simp only [Except.ok.injEq, exists_and_left, exists_eq', and_true]
        omega
  | _ => simp [count, wrongType]

theorem policyNamed_eq_ok_iff {name : String} {span : Option Toml.Span} {found : ReportPolicy} :
    policyNamed name span = .ok found ↔ name = found.name := by
  constructor
  · intro named
    rw [policyNamed] at named
    split at named
    next known isFound =>
      cases named
      have same := List.find?_some isFound
      exact (beq_iff_eq.mp same).symm
    next => cases named
  · rintro rfl
    cases found <;> rfl

/-- An array or a table with nothing in it. -/
def IsEmpty (node : Node) : Prop := node.content = .sequence true ∨ node.content = .map true

/-- A policy is named by a text, or by the only key of a table, over an empty value. -/
inductive NamesPolicy (policy : ReportPolicy) : Node → Prop
  | text (span : Toml.Span) : NamesPolicy policy (.string policy.name span)
  | inlineKey {key : Key} {inner : Node} {origin : Toml.Origin} {span : Option Toml.Span}
      (isKey : key.text = policy.name) (empty : IsEmpty inner) :
      NamesPolicy policy (.inlineTable [(key, inner)] origin span)
  | tableKey {key : Key} {inner : Node} {origin : Toml.Origin} {span : Option Toml.Span}
      (isKey : key.text = policy.name) (empty : IsEmpty inner) :
      NamesPolicy policy (.table [(key, inner)] origin span)

theorem policyKey_eq_ok_iff {entries : Entries} {span : Option Toml.Span}
    {found : ReportPolicy} :
    policyKey entries span = .ok found ↔
      ∃ key inner, entries = [(key, inner)] ∧ key.text = found.name ∧ IsEmpty inner := by
  constructor
  · intro read
    unfold policyKey at read
    split at read
    next => cases read
    next key inner =>
      obtain ⟨known, named, read⟩ := Toml.exists_of_bind read
      split at read
      next isEmpty isSequence =>
        split at read
        next empty =>
          cases read
          exact ⟨key, inner, rfl, policyNamed_eq_ok_iff.mp named, .inl (empty ▸ isSequence)⟩
        next => cases read
      next isEmpty isMap =>
        split at read
        next empty =>
          cases read
          exact ⟨key, inner, rfl, policyNamed_eq_ok_iff.mp named, .inr (empty ▸ isMap)⟩
        next => cases read
      next => cases read
    next => cases read
  · rintro ⟨key, inner, rfl, isKey, empty⟩
    have named : policyNamed key.text (some key.span) = .ok found :=
      policyNamed_eq_ok_iff.mpr isKey
    rcases empty with isSequence | isMap
    · simp only [policyKey, named, isSequence]
      rfl
    · simp only [policyKey, named, isMap]
      rfl

theorem policy_eq_ok_iff {node : Node} {found : ReportPolicy} :
    policy node = .ok found ↔ NamesPolicy found node := by
  constructor
  · intro read
    cases node with
    | string name span =>
        cases policyNamed_eq_ok_iff.mp read
        exact .text span
    | inlineTable entries origin span =>
        obtain ⟨key, inner, rfl, isKey, empty⟩ := policyKey_eq_ok_iff.mp read
        exact .inlineKey isKey empty
    | table entries origin span =>
        obtain ⟨key, inner, rfl, isKey, empty⟩ := policyKey_eq_ok_iff.mp read
        exact .tableKey isKey empty
    | _ => cases read
  · intro names
    cases names with
    | text span => exact policyNamed_eq_ok_iff.mpr rfl
    | @inlineKey key inner _ span isKey empty =>
        have read : policyKey [(key, inner)] span = .ok found :=
          policyKey_eq_ok_iff.mpr ⟨key, inner, rfl, isKey, empty⟩
        exact read
    | @tableKey key inner _ span isKey empty =>
        have read : policyKey [(key, inner)] span = .ok found :=
          policyKey_eq_ok_iff.mpr ⟨key, inner, rfl, isKey, empty⟩
        exact read

/-- Which values in a document stand for what a setting holds. -/
def Field.Stands : (f : Field) → f.Content → Node → Prop
  | moduleName, found, node | errorPrefix, found, node => ∃ span, node = .string found span
  | frameIntervalMs, (found : Nat), node | fuelYieldInterval, (found : Nat), node =>
      ∃ span, node = .integer found span
  | reportPolicy, found, node => NamesPolicy found node
  | validate, found, node => ∃ span, node = .boolean found span

theorem Field.decode_eq_ok_iff (f : Field) {node : Node} {content : f.Content} :
    f.decode node = .ok content ↔ f.Stands content node := by
  cases f with
  | moduleName | errorPrefix => exact text_eq_ok_iff
  | frameIntervalMs | fuelYieldInterval => exact count_eq_ok_iff
  | reportPolicy => exact policy_eq_ok_iff
  | validate => exact flag_eq_ok_iff

/-! One entry -/

theorem set_of_field {f : Field} {key : Key} (isKey : f.key = key.text) (s : Settings)
    (node : Node) :
    s.set key node = ((f.decode node).map fun content => f.put content s).mapError
      fun p => { p with span := p.span <|> some key.span } := by
  obtain ⟨text, span⟩ := key
  subst isKey
  cases f <;> rfl

theorem set_of_unknown {key : Key} (unknown : ∀ f : Field, f.key ≠ key.text) (s : Settings)
    (node : Node) : s.set key node = .error (unknownField key) := by
  rw [set]
  split
  next isKey => exact absurd isKey.symm (unknown .moduleName)
  next isKey => exact absurd isKey.symm (unknown .frameIntervalMs)
  next isKey => exact absurd isKey.symm (unknown .reportPolicy)
  next isKey => exact absurd isKey.symm (unknown .errorPrefix)
  next isKey => exact absurd isKey.symm (unknown .validate)
  next isKey => exact absurd isKey.symm (unknown .fuelYieldInterval)
  next => rfl

/-- An entry is taken in if its key names a setting and its value stands for what that
holds, and then changes this one setting. -/
theorem set_eq_ok_iff {s t : Settings} {key : Key} {node : Node} :
    s.set key node = .ok t ↔
      ∃ (f : Field) (content : f.Content),
        f.key = key.text ∧ f.Stands content node ∧ t = f.put content s := by
  constructor
  · intro taken
    by_cases known : ∃ f : Field, f.key = key.text
    · obtain ⟨f, isKey⟩ := known
      rw [set_of_field isKey] at taken
      cases decoded : f.decode node with
      | error problem =>
          rw [decoded] at taken
          cases taken
      | ok content =>
          rw [decoded] at taken
          cases taken
          exact ⟨f, content, isKey, f.decode_eq_ok_iff.mp decoded, rfl⟩
    · rw [set_of_unknown (not_exists.mp known)] at taken
      cases taken
  · rintro ⟨f, content, isKey, stands, rfl⟩
    rw [set_of_field isKey, f.decode_eq_ok_iff.mpr stands]
    rfl

end Rerun.Settings
