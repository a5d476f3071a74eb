import Rerun.Proofs.Settings.Field

/-! Settings are loaded one by one.  The entries of a document are taken in one after another;
since no key stands twice, none undoes what another did, and the order does not matter. -/

namespace Rerun.Settings

open Toml (Entries Key Node)

/-- Takes the entries of a document in. -/
abbrev take (s : Settings) (entries : Entries) : Except Toml.Problem Settings :=
  entries.foldlM (fun s (key, node) => s.set key node) s

/-- An entry of its own is a document that loads. -/
def IsEntry (entry : Key × Node) : Prop :=
  ∃ (f : Field) (content : f.Content), f.key = entry.1.text ∧ f.Stands content entry.2

theorem exists_set_iff {s : Settings} {entry : Key × Node} :
    (∃ t, s.set entry.1 entry.2 = .ok t) ↔ IsEntry entry := by
  simp only [set_eq_ok_iff]
  constructor
  · rintro ⟨_, f, content, isKey, stands, -⟩
    exact ⟨f, content, isKey, stands⟩
  · rintro ⟨f, content, isKey, stands⟩
    exact ⟨_, f, content, isKey, stands, rfl⟩

/-- Whether entries are taken in does not depend on what was set before. -/
theorem exists_take_iff {s : Settings} {entries : Entries} :
    (∃ t, s.take entries = .ok t) ↔ ∀ entry ∈ entries, IsEntry entry := by
  induction entries generalizing s with
  | nil => exact ⟨fun _ _ member => absurd member List.not_mem_nil, fun _ => ⟨s, rfl⟩⟩
  | cons entry rest ih =>
      rw [List.forall_mem_cons, ← exists_set_iff (s := s)]
      constructor
      · rintro ⟨t, taken⟩
        obtain ⟨u, first, others⟩ := Toml.exists_of_bind taken
        exact ⟨⟨u, first⟩, ih.mp ⟨t, others⟩⟩
      · rintro ⟨⟨u, first⟩, others⟩
        obtain ⟨t, others⟩ := ih.mpr others
        refine ⟨t, ?_⟩
        change (s.set entry.1 entry.2 >>= fun u => u.take rest) = .ok t
        rw [first]
        exact others

/-- What the entries of a document make of settings. -/
structure Loaded (entries : Entries) (s t : Settings) : Prop where
  /-- An entry decides the setting that its key names. -/
  told : ∀ entry ∈ entries, ∀ f : Field, f.key = entry.1.text → f.Stands (f.get t) entry.2
  /-- A setting that no entry names stays as it was. -/
  kept : ∀ f : Field, f.key ∉ entries.keys → f.get t = f.get s

theorem loaded_of_take {s t : Settings} {entries : Entries} (distinct : entries.Distinct)
    (taken : s.take entries = .ok t) : Loaded entries s t := by
  induction entries generalizing s with
  | nil =>
      cases taken
      exact ⟨fun _ member => absurd member List.not_mem_nil, fun _ _ => rfl⟩
  | cons entry rest ih =>
      obtain ⟨u, first, others⟩ := Toml.exists_of_bind taken
      obtain ⟨f, content, isKey, stands, rfl⟩ := set_eq_ok_iff.mp first
      obtain ⟨fresh, apart⟩ := List.nodup_cons.mp distinct
      have loaded := ih apart others
      refine ⟨?_, ?_⟩
      · intro other member g isOther
        rcases List.mem_cons.mp member with rfl | later
        · obtain rfl : g = f := Field.key_injective (isOther.trans isKey.symm)
          rw [loaded.kept g (isKey ▸ fresh), Field.get_put]
          exact stands
        · exact loaded.told other later g isOther
      · intro g absent
        obtain ⟨notFirst, notLater⟩ := not_or.mp (mt List.mem_cons.mpr absent)
        have different : f ≠ g := fun same => notFirst (same ▸ isKey)
        rw [loaded.kept g notLater, Field.get_put_of_ne different]

/-- Values that stand for the same setting hold the same. -/
theorem Field.Stands.unique {f : Field} {node : Node} {content other : f.Content}
    (stands : f.Stands content node) (others : f.Stands other node) : content = other := by
  have same := (f.decode_eq_ok_iff.mpr stands).symm.trans (f.decode_eq_ok_iff.mpr others)
  exact Except.ok.inj same

theorem Loaded.unique {entries : Entries} {s t u : Settings} (loaded : Loaded entries s t)
    (others : Loaded entries s u) : t = u := by
  apply eq_of_get
  intro f
  by_cases present : f.key ∈ entries.keys
  · obtain ⟨entry, member, isKey⟩ := List.mem_map.mp present
    exact (loaded.told entry member f isKey.symm).unique (others.told entry member f isKey.symm)
  · rw [loaded.kept f present, others.kept f present]

/-- The order of the entries does not matter. -/
theorem Loaded.perm {entries others : Entries} {s t : Settings} (loaded : Loaded entries s t)
    (same : others.Perm entries) : Loaded others s t := by
  refine ⟨fun entry member => loaded.told entry (same.mem_iff.mp member), ?_⟩
  intro f absent
  exact loaded.kept f fun present => absent ((same.map _).mem_iff.mpr present)

/-! Whole documents -/

section Document

variable {entries : Entries} {s : Settings}

theorem loaded_of_entries (distinct : entries.Distinct) (loads : ofEntries entries = .ok s) :
    Loaded entries {} s :=
  loaded_of_take distinct loads

theorem exists_entries_iff :
    (∃ s, ofEntries entries = .ok s) ↔ ∀ entry ∈ entries, IsEntry entry :=
  exists_take_iff

theorem distinct_single (entry : Key × Node) : Entries.Distinct [entry] :=
  List.nodup_singleton _

/-- What a document of one entry makes of the setting it names. -/
theorem single_eq_ok_iff {f : Field} {entry : Key × Node} (isKey : f.key = entry.1.text)
    {content : f.Content} :
    (∃ s, ofEntries [entry] = .ok s ∧ f.get s = content) ↔ f.Stands content entry.2 := by
  constructor
  · rintro ⟨s, loads, rfl⟩
    exact (loaded_of_entries (distinct_single entry) loads).told entry (by simp) f isKey
  · intro stands
    obtain ⟨s, loads⟩ := exists_entries_iff.mpr fun other member => by
      rw [List.mem_singleton.mp member]
      exact ⟨f, content, isKey, stands⟩
    have told := (loaded_of_entries (distinct_single entry) loads).told entry (by simp) f isKey
    exact ⟨s, loads, told.unique stands⟩

theorem toOption_perm {others : Entries} (distinct : entries.Distinct)
    (same : others.Perm entries) :
    (ofEntries others).toOption = (ofEntries entries).toOption := by
  have distinctOthers : others.Distinct := (same.map _).nodup_iff.mpr distinct
  have loads : (∃ s, ofEntries others = .ok s) ↔ ∃ s, ofEntries entries = .ok s := by
    simp only [exists_entries_iff, same.mem_iff]
  cases loaded : ofEntries entries with
  | error problem =>
      cases loadedOthers : ofEntries others with
      | error _ => rfl
      | ok t =>
          obtain ⟨s, impossible⟩ := loads.mp ⟨t, loadedOthers⟩
          rw [loaded] at impossible
          cases impossible
  | ok s =>
      obtain ⟨t, loadedOthers⟩ := loads.mpr ⟨s, loaded⟩
      have inOrder := (loaded_of_entries distinct loaded).perm same
      rw [loadedOthers, inOrder.unique (loaded_of_entries distinctOthers loadedOthers)]

theorem ofToml_of_parse {text : String} (parsed : Toml.parse text = .ok entries) :
    ofToml text = (ofEntries entries).mapError fun problem => .invalid problem text := by
  have bound : Toml.parse text >>= ofEntries = ofEntries entries := by rw [parsed]; rfl
  rw [ofToml, bound]
  cases ofEntries entries <;> rfl

theorem ofToml_eq_ok_iff {text : String} (parsed : Toml.parse text = .ok entries) :
    ofToml text = .ok s ↔ ofEntries entries = .ok s := by
  rw [ofToml_of_parse parsed]
  cases ofEntries entries <;> simp [Except.mapError]

end Document

theorem frameInterval_eq (s : Settings) : s.frameInterval = max 1 s.frameIntervalMs :=
  Nat.max_comm ..

theorem fuel?_eq_none_iff (s : Settings) : s.fuel? = none ↔ s.fuelYieldInterval = 0 := by
  rw [fuel?]
  split <;> simp <;> omega

/-- Settings load one by one.  A document loads if each of its keys names a setting and each
entry would load if it stood alone.  Then a setting whose key is in the document is what that
entry alone would make it, and any other is what it is without a document, whatever the order
of the keys.  An entry that stands alone loads just where its value stands for what its
setting holds, and this is what it holds then. -/
theorem settings_load_one_by_one (text : String) :
    (∀ (f : Field) (key : Key) (node : Node), f.key = key.text → ∀ content,
      (∃ s, ofEntries [(key, node)] = .ok s ∧ f.get s = content) ↔ f.Stands content node) ∧
    match Toml.parse text with
    | .error problem => ofToml text = .error (.invalid problem text)
    | .ok entries =>
        ((∃ s, ofToml text = .ok s) ↔
          ∀ entry ∈ entries, entry.1.text ∈ fieldNames ∧ ∃ s, ofEntries [entry] = .ok s) ∧
        (∀ s, ofToml text = .ok s →
          (∀ entry ∈ entries, ∀ alone, ofEntries [entry] = .ok alone →
            ∀ f : Field, f.key = entry.1.text → f.get s = f.get alone) ∧
          (∀ f : Field, f.key ∉ entries.keys → f.get s = f.get {}) ∧
          s.frameInterval = max 1 s.frameIntervalMs ∧ s.frameInterval ≠ 0 ∧
          (s.fuel? = none ↔ s.fuelYieldInterval = 0)) ∧
        ∀ others : Entries, others.Perm entries →
          (ofEntries others).toOption = (ofToml text).toOption := by
  refine ⟨?_, ?_⟩
  · intro f key node isKey content
    exact @single_eq_ok_iff f (key, node) isKey content
  cases parsed : Toml.parse text with
  | error problem =>
      rw [ofToml, parsed]
      rfl
  | ok entries =>
      have distinct := Toml.distinct_of_parse parsed
      have loads {s : Settings} := ofToml_eq_ok_iff (s := s) parsed
      refine ⟨?_, ?_, ?_⟩
      · simp only [loads, exists_entries_iff, List.forall_mem_singleton]
        refine forall₂_congr fun entry _ => ?_
        refine ⟨fun isEntry => ⟨?_, isEntry⟩, And.right⟩
        obtain ⟨f, _, isKey, -⟩ := isEntry
        exact Field.mem_fieldNames_iff.mpr ⟨f, isKey⟩
      · intro s loaded
        have whole := loaded_of_entries distinct (loads.mp loaded)
        refine ⟨?_, whole.kept, s.frameInterval_eq, ?_, s.fuel?_eq_none_iff⟩
        · intro entry member alone loadsAlone f isKey
          have single := loaded_of_entries (distinct_single entry) loadsAlone
          exact (whole.told entry member f isKey).unique (single.told entry (by simp) f isKey)
        · rw [frameInterval_eq]
          omega
      · intro others same
        rw [toOption_perm distinct same, ofToml_of_parse parsed]
        cases ofEntries entries <;> rfl

/-- Two keys of six, the later field first. -/
def halfText : String := "validate = false\nframe_interval_ms = 0\n"

set_option maxRecDepth 10000 in
private theorem halfText_keys :
    (Toml.parse halfText).toOption.map Toml.Entries.keys =
      some ["validate", "frame_interval_ms"] := by
  decide +kernel

set_option maxRecDepth 10000 in
private theorem halfText_loads :
    (ofToml halfText).toOption = some { validate := false, frameIntervalMs := 0 } := by
  decide +kernel

/-- What the document does not name keeps its default, and an interval of zero is one. -/
theorem settings_load_one_by_one_half :
    ∃ entries s,
      Toml.parse halfText = .ok entries ∧ ofToml halfText = .ok s ∧
      (∀ entry ∈ entries, entry.1.text ∈ fieldNames ∧ ∃ alone, ofEntries [entry] = .ok alone) ∧
      s.validate = false ∧ s.errorPrefix = defaultErrorPrefix ∧ s.frameInterval = 1 := by
  obtain ⟨-, whole⟩ := settings_load_one_by_one halfText
  have keys := halfText_keys
  have loads := halfText_loads
  cases parsed : Toml.parse halfText with
  | error problem =>
      rw [parsed] at keys
      cases keys
  | ok entries =>
      cases loaded : ofToml halfText with
      | error e =>
          rw [loaded] at loads
          cases loads
      | ok s =>
          rw [parsed] at keys whole
          rw [loaded] at loads
          have isKeys : entries.keys = ["validate", "frame_interval_ms"] := Option.some.inj keys
          have isLoaded : s = { validate := false, frameIntervalMs := 0 } := Option.some.inj loads
          obtain ⟨alone, told, -⟩ := whole
          obtain ⟨-, kept, interval, -⟩ := told s loaded
          refine ⟨entries, s, rfl, rfl, alone.mp ⟨s, loaded⟩, by rw [isLoaded], ?_, ?_⟩
          · exact kept .errorPrefix (by rw [isKeys]; decide)
          · rw [interval, isLoaded]
            rfl

end Rerun.Settings
