import Rerun.Source.File

/-! A file that is read again and again.  What a read gives is told by the file alone; what it
writes, by whether the file stands as it did at the read before. -/

namespace Rerun

/-- How a file is found: with a kind of failure, or readable. -/
def ReadError.kind? : Except ReadError String → Option ReadError.Kind
  | .ok _ => none
  | .error e => some e.kind

namespace FileReader

open ReadError (Kind kind?)

/-- The record that a file is found like this. -/
def notice (path : String) : Except ReadError String → LogRecord
  | .ok _ => ⟨.info, s!"{path} is readable again"⟩
  | .error e => ⟨.warn, s!"Failed to read {path}: {e.message}"⟩

/-- What one read after another gives: the text, if there is one, and the records. -/
def reads (r : FileReader) :
    List (Except ReadError String) → List (Option String × List LogRecord)
  | [] => []
  | now :: rest =>
      let (reading, log, next) := r.read now
      (reading, log) :: next.reads rest

def log (r : FileReader) (found : List (Except ReadError String)) : List LogRecord :=
  (r.reads found).flatMap (·.2)

/-- The reader once a file was found like this. -/
def having (r : FileReader) (found : List (Except ReadError String)) : FileReader :=
  found.foldl (fun r now => (r.read now).2.2) r

/-- How the file stood at a read, where reads are counted from one.  Number zero stands for
what was known at first. -/
def standing (first : Option Kind) (found : List (Except ReadError String)) :
    Nat → Option Kind
  | 0 => first
  | n + 1 => found[n]?.bind kind?

section Step

variable (r : FileReader) (now : Except ReadError String)
  (found rest : List (Except ReadError String))

theorem read_eq :
    r.read now =
      (now.toOption, if r.lastError = kind? now then [] else [notice r.path now],
        { r with lastError := kind? now }) := by
  cases now with
  | error e => rfl
  | ok text =>
      rw [read]
      cases r.lastError <;> rfl

theorem reads_cons :
    r.reads (now :: rest) =
      (now.toOption, if r.lastError = kind? now then [] else [notice r.path now]) ::
        { r with lastError := kind? now }.reads rest := by
  rw [reads, read_eq]

theorem log_cons :
    r.log (now :: rest) =
      (if r.lastError = kind? now then [] else [notice r.path now]) ++
        { r with lastError := kind? now }.log rest := by
  rw [log, reads_cons, List.flatMap_cons]
  rfl

theorem log_append : r.log (found ++ rest) = r.log found ++ (r.having found).log rest := by
  induction found generalizing r with
  | nil => rfl
  | cons now found ih =>
      rw [List.cons_append, log_cons, log_cons, ih, List.append_assoc, having, having,
        List.foldl_cons, read_eq]

end Step

theorem getElem?_reads (r : FileReader) (found : List (Except ReadError String)) (i : Nat) :
    (r.reads found)[i]? = found[i]?.map fun now =>
      (now.toOption,
        if standing r.lastError found i = standing r.lastError found (i + 1) then []
        else [notice r.path now]) := by
  induction found generalizing r i with
  | nil => rfl
  | cons now rest ih =>
      rw [reads_cons]
      cases i with
      | zero => rfl
      | succ i =>
          rw [List.getElem?_cons_succ, List.getElem?_cons_succ, ih]
          -- the state before the next read is that of this one
          cases i <;> rfl

theorem log_append_of_same (r : FileReader) {again : List (Except ReadError String)}
    (same : ∀ now ∈ again, kind? now = r.lastError) (rest : List (Except ReadError String)) :
    r.log (again ++ rest) = r.log rest := by
  induction again with
  | nil => rfl
  | cons now again ih =>
      obtain ⟨here, others⟩ := List.forall_mem_cons.mp same
      rw [List.cons_append, log_cons, here, if_pos rfl, List.nil_append]
      exact ih others

theorem log_repeated (r : FileReader) (before : List (Except ReadError String))
    {now : Except ReadError String} {again : List (Except ReadError String)}
    (same : ∀ other ∈ again, kind? other = kind? now)
    (rest : List (Except ReadError String)) :
    r.log (before ++ now :: (again ++ rest)) = r.log (before ++ now :: rest) := by
  rw [log_append, log_append, log_cons, log_cons, log_append_of_same _ same]

theorem getElem?_of_standing {first : Option Kind} {found : List (Except ReadError String)}
    {i : Nat} {kind : Kind} (failing : standing first found (i + 1) = some kind) :
    ∃ e, found[i]? = some (.error e) ∧ e.kind = kind := by
  obtain ⟨now, known, failed⟩ := Option.bind_eq_some_iff.mp failing
  cases now with
  | ok text => cases failed
  | error e => exact ⟨e, known, Option.some.inj failed⟩

/-- A file that stands with a failure has done so since a read that wrote a warning. -/
theorem exists_onset (path : String) {found : List (Except ReadError String)} {kind : Kind}
    {i : Nat} (failing : standing none found (i + 1) = some kind) :
    ∃ m ≤ i, (∀ l, m ≤ l → l ≤ i → standing none found (l + 1) = some kind) ∧
      ∃ e, e.kind = kind ∧ found[m]? = some (.error e) ∧
        (reads { path } found)[m]? = some (none, [notice path (.error e)]) := by
  -- the read itself is the one, unless the file stood so before
  have onset {i : Nat} (failing : standing none found (i + 1) = some kind)
      (other : standing none found i ≠ some kind) :
      ∃ e, e.kind = kind ∧ found[i]? = some (.error e) ∧
        (reads { path } found)[i]? = some (none, [notice path (.error e)]) := by
    obtain ⟨e, known, same⟩ := getElem?_of_standing failing
    refine ⟨e, same, known, ?_⟩
    rw [getElem?_reads, known, Option.map_some, failing, if_neg other]
    rfl
  induction i with
  | zero =>
      refine ⟨0, Nat.le_refl 0, fun l _ bound => ?_, onset failing nofun⟩
      rw [Nat.le_zero.mp bound]
      exact failing
  | succ i ih =>
      by_cases before : standing none found (i + 1) = some kind
      · obtain ⟨m, bound, constant, warned⟩ := ih before
        refine ⟨m, Nat.le_succ_of_le bound, fun l lower upper => ?_, warned⟩
        rcases Nat.le_succ_iff.mp upper with within | rfl
        · exact constant l lower within
        · exact failing
      · refine ⟨i + 1, Nat.le_refl _, fun l lower upper => ?_, onset failing before⟩
        rw [Nat.le_antisymm upper lower]
        exact failing

/-- Where the file is told to be readable again, the record before is a warning, or else none
has been written since a failure that was known at first. -/
theorem warned_before (r : FileReader) {found : List (Except ReadError String)}
    {before after : List LogRecord} {again : LogRecord} (info : again.level = .info)
    (written : r.log found = before ++ again :: after) :
    before = [] ∧ r.lastError.isSome ∨
      ∃ earlier warning, before = earlier ++ [warning] ∧ warning.level = .warn := by
  induction found generalizing r before with
  | nil => cases before <;> cases written
  | cons now rest ih =>
      rw [log_cons] at written
      by_cases same : r.lastError = kind? now
      · rw [if_pos same, List.nil_append] at written
        rw [same]
        exact ih _ written
      · rw [if_neg same, List.singleton_append] at written
        cases before with
        | nil =>
            obtain ⟨rfl, -⟩ := List.cons.inj written
            cases now with
            | error e => cases info
            | ok text => exact .inl ⟨rfl, Option.isSome_iff_ne_none.mpr same⟩
        | cons first before =>
            obtain ⟨rfl, later⟩ := List.cons.inj written
            obtain ⟨rfl, failing⟩ | ⟨earlier, warning, rfl, level⟩ := ih _ later
            · cases now with
              | ok text => cases failing
              | error e => exact .inr ⟨[], _, rfl, rfl⟩
            · exact .inr ⟨_ :: earlier, warning, rfl, level⟩

/-- The log tells the changes of readability and nothing else.  A read gives the text that is
there, or none, whatever was read before.  It writes one record where the file stands otherwise
than at the read before, a warning of a failure or the information that the file is readable
again, and else nothing, so that a read may be repeated at will.  Two phases of failures of one
kind with a readable file in between each begin with a warning.  And the record before an
information is always a warning. -/
theorem log_tells_changes (path : String) (found : List (Except ReadError String)) :
    let r : FileReader := { path }
    let s := standing none found
    (∀ i, (r.reads found)[i]? = found[i]?.map fun now =>
      (now.toOption, if s i = s (i + 1) then [] else [notice path now])) ∧
    (∀ before now again after, found = before ++ now :: after →
      (∀ other ∈ again, kind? other = kind? now) →
        r.log (before ++ now :: (again ++ after)) = r.log found) ∧
    (∀ i j k kind, i < j → j < k →
      s (i + 1) = some kind → s (j + 1) = none → s (k + 1) = some kind →
      ∃ m n a b, m ≤ i ∧ j < n ∧ n ≤ k ∧ a.kind = kind ∧ b.kind = kind ∧
        (∀ l, m ≤ l → l ≤ i → s (l + 1) = some kind) ∧
        (∀ l, n ≤ l → l ≤ k → s (l + 1) = some kind) ∧
        (r.reads found)[m]? = some (none, [notice path (.error a)]) ∧
        (r.reads found)[n]? = some (none, [notice path (.error b)])) ∧
    ∀ before again after, r.log found = before ++ again :: after → again.level = .info →
      ∃ earlier warning, before = earlier ++ [warning] ∧ warning.level = .warn := by
  intro r s
  refine ⟨getElem?_reads r found, ?_, ?_, ?_⟩
  · rintro before now again after rfl same
    exact log_repeated r before same after
  · intro i j k kind first second failing readable failingAgain
    obtain ⟨m, early, constant, a, kindA, -, warned⟩ := exists_onset path failing
    obtain ⟨n, late, constantAgain, b, kindB, -, warnedAgain⟩ := exists_onset path failingAgain
    have apart : j < n := by
      apply Nat.lt_of_not_le
      intro overlap
      cases readable.symm.trans (constantAgain j overlap (Nat.le_of_lt second))
    exact ⟨m, n, a, b, early, apart, late, kindA, kindB, constant, constantAgain, warned,
      warnedAgain⟩
  · intro before again after written info
    obtain ⟨-, failing⟩ | warned := warned_before r info written
    · cases failing
    · exact warned

/-- A file that goes missing twice, and is looked at twice the first time. -/
theorem log_tells_changes_missing_twice :
    let r : FileReader := { path := "loop.wat" }
    let found : List (Except ReadError String) :=
      [.error .missing, .error .missing, .ok "(module)", .error .missing, .ok "(module)"]
    let s := standing none found
    s 2 = some .missing ∧ s 3 = none ∧ s 4 = some .missing ∧
      (∃ m n a b, m ≤ 1 ∧ 2 < n ∧ n ≤ 3 ∧ a.kind = .missing ∧ b.kind = .missing ∧
        (r.reads found)[m]? = some (none, [notice "loop.wat" (.error a)]) ∧
        (r.reads found)[n]? = some (none, [notice "loop.wat" (.error b)])) ∧
      r.log found = r.log [.error .missing, .ok "(module)", .error .missing, .ok "(module)"] := by
  intro r found s
  obtain ⟨-, -, phases, -⟩ := log_tells_changes "loop.wat" found
  obtain ⟨m, n, a, b, early, apart, late, kindA, kindB, -, -, warned, warnedAgain⟩ :=
    phases 1 2 3 .missing (by decide) (by decide) rfl rfl rfl
  obtain ⟨-, repeated, -, -⟩ := log_tells_changes "loop.wat"
    [.error .missing, .ok "(module)", .error .missing, .ok "(module)"]
  have same := repeated [] (.error .missing) [.error .missing]
    [.ok "(module)", .error .missing, .ok "(module)"] rfl (by simp)
  exact ⟨rfl, rfl, rfl,
    ⟨m, n, a, b, early, apart, late, kindA, kindB, warned, warnedAgain⟩, same⟩

end FileReader

end Rerun
