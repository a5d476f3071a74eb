import Mathlib.Data.Prod.Lex
import Mathlib.Order.Hom.Set
import Rerun.Proofs.Text.Position

/-! The places of a text, each a line and a column.  The boundaries between its characters
correspond to them one to one and in order. -/

namespace Rerun.Position

/-- Where a place comes to be when one more character is put in front of the text. -/
def shift (breaks : Bool) : Nat × Nat → Nat × Nat
  | (line, column) =>
      if breaks then (line + 1, column)
      else if line = 1 then (1, column + 1)
      else (line, column)

/-- The characters of a line, which are counted from one. -/
def row (chars : List Char) (line : Nat) : List Char :=
  (chars.splitOn '\n')[line - 1]?.getD []

/-- The columns of a line are those of its characters and the one behind them. -/
def places (chars : List Char) : Set (Nat × Nat) :=
  {p | (1 ≤ p.1 ∧ p.1 ≤ chars.count '\n' + 1) ∧ 1 ≤ p.2 ∧ p.2 ≤ (row chars p.1).length + 1}

theorem one_le_scan (before : List Char) : 1 ≤ (scan before).1 ∧ 1 ≤ (scan before).2 := by
  rw [scan_eq]
  exact ⟨Nat.le_add_left .., Nat.le_add_left ..⟩

theorem scan_concat (before : List Char) (c : Char) :
    scan (before ++ [c]) = pass (scan before) c := by
  rw [scan, List.foldl_append, List.foldl_cons, List.foldl_nil, ← scan]

theorem shift_pass {p : Nat × Nat} (positive : 1 ≤ p.1) (breaks : Bool) (c : Char) :
    shift breaks (pass p c) = pass (shift breaks p) c := by
  obtain ⟨line, column⟩ := p
  by_cases feed : c = '\n'
  · subst feed
    cases breaks with
    | true => rfl
    | false => by_cases first : line = 1 <;> simp_all [shift, pass]; omega
  · cases breaks with
    | true => simp [shift, pass]
    | false => by_cases first : line = 1 <;> simp [shift, pass, first]

theorem shift_fst (breaks : Bool) (p : Nat × Nat) :
    (shift breaks p).1 = p.1 + if breaks then 1 else 0 := by
  obtain ⟨line, column⟩ := p
  cases breaks with
  | true => rfl
  | false => by_cases first : line = 1 <;> simp [shift, first]

theorem le_shift_snd (breaks : Bool) (p : Nat × Nat) : p.2 ≤ (shift breaks p).2 := by
  obtain ⟨line, column⟩ := p
  cases breaks with
  | true => exact Nat.le_refl column
  | false => by_cases first : line = 1 <;> simp [shift, first]

theorem scan_cons (c : Char) (before : List Char) :
    scan (c :: before) = shift (c == '\n') (scan before) := by
  induction before using List.reverseRecOn with
  | nil => by_cases feed : c = '\n' <;> simp [scan, pass, shift, feed]
  | append_singleton before last ih =>
      rw [← List.cons_append, scan_concat, scan_concat, ih,
        shift_pass (one_le_scan before).1]

theorem splitOn_feed (rest : List Char) :
    ('\n' :: rest).splitOn '\n' = [] :: rest.splitOn '\n' := by
  rw [List.splitOn_eq_splitOnP, List.splitOnP_cons_eq_if_modifyHead]
  rfl

theorem splitOn_cons {c : Char} (stays : c ≠ '\n') (rest : List Char) :
    ∃ first more, rest.splitOn '\n' = first :: more ∧
      (c :: rest).splitOn '\n' = (c :: first) :: more := by
  obtain ⟨first, more, split⟩ := List.exists_cons_of_ne_nil (List.splitOn_ne_nil '\n' rest)
  refine ⟨first, more, split, ?_⟩
  rw [List.splitOn_eq_splitOnP, List.splitOnP_cons_eq_if_modifyHead, if_neg (by simpa using stays),
    ← List.splitOn_eq_splitOnP, split, List.modifyHead_cons]

theorem mem_places_feed {rest : List Char} {p : Nat × Nat} :
    p ∈ places ('\n' :: rest) ↔ p = (1, 1) ∨ ∃ q ∈ places rest, shift true q = p := by
  obtain ⟨line, column⟩ := p
  simp only [places, row, Set.mem_ofPred_eq, splitOn_feed, List.count_cons_self, shift, Prod.exists,
    Prod.mk.injEq, if_true]
  constructor
  · rintro ⟨⟨positive, within⟩, first, last⟩
    obtain _ | _ | line := line
    · omega
    · exact .inl ⟨rfl, Nat.le_antisymm last first⟩
    · exact .inr ⟨line + 1, column, ⟨⟨by omega, by omega⟩, first, last⟩, rfl, rfl⟩
  · rintro (⟨rfl, rfl⟩ | ⟨line, column, ⟨⟨positive, within⟩, first, last⟩, rfl, rfl⟩)
    · exact ⟨⟨Nat.le_refl 1, by omega⟩, Nat.le_refl 1, Nat.le_refl 1⟩
    · obtain ⟨line, rfl⟩ := Nat.exists_eq_add_of_le' positive
      exact ⟨⟨by omega, by omega⟩, first, last⟩

theorem mem_places_cons {c : Char} (stays : c ≠ '\n') {rest : List Char} {p : Nat × Nat} :
    p ∈ places (c :: rest) ↔ p = (1, 1) ∨ ∃ q ∈ places rest, shift false q = p := by
  obtain ⟨line, column⟩ := p
  obtain ⟨front, more, split, splitCons⟩ := splitOn_cons stays rest
  simp only [places, row, Set.mem_ofPred_eq, split, splitCons, List.count_cons_of_ne stays, shift,
    Prod.exists, Bool.false_eq_true, if_false]
  constructor
  · rintro ⟨⟨positive, within⟩, first, last⟩
    obtain _ | _ | line := line
    · omega
    · obtain _ | _ | column := column
      · omega
      · exact .inl rfl
      · exact .inr ⟨1, column + 1, ⟨⟨Nat.le_refl 1, within⟩, by omega, Nat.le_of_succ_le_succ last⟩,
          rfl⟩
    · exact .inr ⟨line + 2, column, ⟨⟨positive, within⟩, first, last⟩, by simp⟩
  · rintro (start | ⟨line, column, ⟨⟨positive, within⟩, first, last⟩, shifted⟩)
    · obtain ⟨rfl, rfl⟩ := Prod.mk.inj start
      exact ⟨⟨Nat.le_refl 1, by omega⟩, Nat.le_refl 1, by omega⟩
    · split at shifted <;> obtain ⟨rfl, rfl⟩ := Prod.mk.inj shifted
      next one =>
        subst one
        exact ⟨⟨Nat.le_refl 1, within⟩, by omega, Nat.succ_le_succ last⟩
      next later =>
        obtain ⟨line, rfl⟩ := Nat.exists_eq_add_of_le' (show 2 ≤ line by omega)
        exact ⟨⟨positive, within⟩, first, last⟩

theorem mem_places_iff {chars : List Char} {p : Nat × Nat} :
    p ∈ places chars ↔ ∃ before after, chars = before ++ after ∧ scan before = p := by
  induction chars generalizing p with
  | nil =>
      constructor
      · rintro ⟨⟨positive, within⟩, first, last⟩
        have line : p.1 = 1 := Nat.le_antisymm within positive
        simp only [row, line, List.splitOn_nil] at last
        exact ⟨[], [], rfl, Prod.ext line.symm (Nat.le_antisymm first last)⟩
      · rintro ⟨before, after, split, rfl⟩
        obtain ⟨rfl, rfl⟩ := List.append_eq_nil_iff.mp split.symm
        exact ⟨⟨Nat.le_refl 1, Nat.le_refl 1⟩, Nat.le_refl 1, Nat.le_refl 1⟩
  | cons c rest ih =>
      have front : p ∈ places (c :: rest) ↔
          p = (1, 1) ∨ ∃ q ∈ places rest, shift (c == '\n') q = p := by
        by_cases feed : c = '\n'
        · subst feed
          exact mem_places_feed
        · rw [beq_eq_false_iff_ne.mpr feed]
          exact mem_places_cons feed
      rw [front]
      constructor
      · rintro (rfl | ⟨q, member, rfl⟩)
        · exact ⟨[], c :: rest, rfl, rfl⟩
        · obtain ⟨before, after, rfl, rfl⟩ := ih.mp member
          exact ⟨c :: before, after, rfl, scan_cons c before⟩
      · rintro ⟨before, after, split, rfl⟩
        cases before with
        | nil => exact .inl rfl
        | cons d before =>
            obtain ⟨rfl, rfl⟩ := List.cons.inj split
            exact .inr ⟨scan before, ih.mpr ⟨before, after, rfl, rfl⟩, (scan_cons c before).symm⟩

/-! ### Order -/

theorem toLex_lt_pass (p : Nat × Nat) (c : Char) : toLex p < toLex (pass p c) := by
  obtain ⟨line, column⟩ := p
  rw [Prod.Lex.toLex_lt_toLex]
  by_cases feed : c = '\n'
  · subst feed
    exact .inl (Nat.lt_succ_self line)
  · exact .inr (by simp [pass])

theorem toLex_scan_le_append (before middle : List Char) :
    toLex (scan before) ≤ toLex (scan (before ++ middle)) := by
  induction middle using List.reverseRecOn with
  | nil => rw [List.append_nil]
  | append_singleton middle c ih =>
      rw [← List.append_assoc, scan_concat]
      exact le_trans ih (le_of_lt (toLex_lt_pass _ c))

theorem toLex_scan_lt_append (before : List Char) {middle : List Char} (proper : middle ≠ []) :
    toLex (scan before) < toLex (scan (before ++ middle)) := by
  obtain ⟨c, middle, rfl⟩ := List.exists_cons_of_ne_nil proper
  calc
    toLex (scan before) < toLex (pass (scan before) c) := toLex_lt_pass _ c
    _ = toLex (scan (before ++ [c])) := by rw [scan_concat]
    _ ≤ toLex (scan (before ++ c :: middle)) := by
      rw [List.append_cons before c middle]
      exact toLex_scan_le_append _ _

/-- Of two splits of a text, the one at the smaller offset comes first. -/
theorem exists_middle {before after before' after' : List Char}
    (same : before ++ after = before' ++ after') (le : byteSize before ≤ byteSize before') :
    ∃ middle, before' = before ++ middle := by
  rcases List.append_eq_append_iff.mp same with ⟨middle, longer, -⟩ | ⟨middle, shorter, -⟩
  · exact ⟨middle, longer⟩
  · cases middle with
    | nil => exact ⟨[], by rw [shorter, List.append_nil, List.append_nil]⟩
    | cons c middle =>
        have size := c.utf8Size_pos
        rw [shorter, byteSize_append, byteSize_cons] at le
        omega

/-- A position is told by the characters before it. -/
theorem resolve_of_floor {text : String} {offset : Nat} {before after : List Char}
    (split : text.toList = before ++ after)
    (start : floor text.toList (min offset (byteSize text.toList)) = byteSize before) :
    resolve text offset = ⟨byteSize before, (scan before).1, (scan before).2⟩ := by
  have seen : charsBefore text.toList (byteSize before) = before := by
    rw [split, charsBefore_append]
  simp only [resolve, start, seen, scan_eq]

theorem resolve_of_split {text : String} {before after : List Char}
    (split : text.toList = before ++ after) :
    resolve text (byteSize before) = ⟨byteSize before, (scan before).1, (scan before).2⟩ := by
  have boundary : isBoundary text.toList (byteSize before) :=
    isBoundary_iff_exists_append.mpr ⟨before, after, split, rfl⟩
  have inside : byteSize before ≤ byteSize text.toList := by
    rw [split, byteSize_append]
    exact Nat.le_add_right _ _
  apply resolve_of_floor split
  rw [Nat.min_eq_left inside]
  exact Nat.le_antisymm (floor_le _ _) (le_floor (Nat.le_refl _) boundary)

theorem exists_split_resolve (text : String) (offset : Nat) :
    ∃ before after, text.toList = before ++ after ∧
      byteSize before = floor text.toList (min offset (byteSize text.toList)) ∧
      resolve text offset = ⟨byteSize before, (scan before).1, (scan before).2⟩ := by
  obtain ⟨before, after, split, size⟩ := isBoundary_iff_exists_append.mp
    (isBoundary_floor text.toList (min offset (byteSize text.toList)))
  exact ⟨before, after, split, size, resolve_of_floor split size.symm⟩

theorem isBoundary_offset (text : String) (offset : Nat) :
    isBoundary text.toList (resolve text offset).offset := by
  obtain ⟨before, after, split, -, place⟩ := exists_split_resolve text offset
  rw [place]
  exact isBoundary_iff_exists_append.mpr ⟨before, after, split, rfl⟩

theorem resolve_resolve (text : String) (offset : Nat) :
    resolve text (resolve text offset).offset = resolve text offset := by
  obtain ⟨before, after, split, -, place⟩ := exists_split_resolve text offset
  rw [place, resolve_of_split split]

theorem floor_mono (chars : List Char) : Monotone (floor chars) := fun m _ le =>
  le_floor (Nat.le_trans (floor_le chars m) le) (isBoundary_floor chars m)

theorem offset_mono (text : String) : Monotone (fun n => (resolve text n).offset) := by
  intro m n le
  exact floor_mono _ (inf_le_inf_right _ le)

/-- Line and column of an offset. -/
def lineColumn (text : String) (offset : Nat) : Nat ×ₗ Nat :=
  toLex ((resolve text offset).line, (resolve text offset).column)

theorem lineColumn_of_split {text : String} {before after : List Char}
    (split : text.toList = before ++ after) :
    lineColumn text (byteSize before) = toLex (scan before) := by
  rw [lineColumn, resolve_of_split split]

theorem lineColumn_offset (text : String) (offset : Nat) :
    lineColumn text (resolve text offset).offset = lineColumn text offset := by
  rw [lineColumn, resolve_resolve, lineColumn]

theorem lineColumn_mono (text : String) : Monotone (lineColumn text) := by
  intro m n le
  obtain ⟨before, after, split, size, place⟩ := exists_split_resolve text m
  obtain ⟨before', after', split', size', place'⟩ := exists_split_resolve text n
  have sizes : byteSize before ≤ byteSize before' := by
    rw [size, size']
    exact floor_mono _ (inf_le_inf_right _ le)
  obtain ⟨middle, rfl⟩ := exists_middle (split.symm.trans split') sizes
  rw [lineColumn, lineColumn, place, place']
  exact toLex_scan_le_append before middle

theorem lineColumn_strictMonoOn (text : String) :
    StrictMonoOn (lineColumn text) {n | isBoundary text.toList n} := by
  intro m first n second lt
  obtain ⟨before, after, split, rfl⟩ := isBoundary_iff_exists_append.mp first
  obtain ⟨before', after', split', rfl⟩ := isBoundary_iff_exists_append.mp second
  obtain ⟨middle, rfl⟩ := exists_middle (split.symm.trans split') (Nat.le_of_lt lt)
  have proper : middle ≠ [] := by
    rintro rfl
    rw [List.append_nil] at lt
    exact Nat.lt_irrefl _ lt
  rw [lineColumn_of_split split, lineColumn_of_split split']
  exact toLex_scan_lt_append before proper

theorem lineColumn_image (text : String) :
    lineColumn text '' {n | isBoundary text.toList n} = {p | ofLex p ∈ places text.toList} := by
  ext p
  change _ ↔ ofLex p ∈ places text.toList
  rw [mem_places_iff]
  constructor
  · rintro ⟨n, boundary, rfl⟩
    obtain ⟨before, after, split, rfl⟩ := isBoundary_iff_exists_append.mp boundary
    exact ⟨before, after, split, by rw [lineColumn_of_split split, ofLex_toLex]⟩
  · rintro ⟨before, after, split, place⟩
    refine ⟨byteSize before, isBoundary_iff_exists_append.mpr ⟨before, after, split, rfl⟩, ?_⟩
    rw [lineColumn_of_split split, place, toLex_ofLex]

/-- Line and column carry the boundaries of a text one to one and in order onto its places: line
by line, every character of the line and what is behind the last.  So they alone tell which
boundary an offset is resolved to.  Greater offsets are not resolved to smaller boundaries, and a
boundary is resolved to itself. -/
theorem lineColumn_orderIso (text : String) :
    (∃ e : {n | (⟨n⟩ : String.Pos.Raw).IsValid text} ≃o {p | ofLex p ∈ places text.toList},
      ∀ n, (e n).val = lineColumn text n.val ∧ (resolve text n.val).offset = n.val) ∧
    (∀ m n, lineColumn text m = lineColumn text n ↔ resolve text m = resolve text n) ∧
    Monotone (lineColumn text) ∧
    Monotone (fun n => (resolve text n).offset) ∧
    ∀ n, resolve text (resolve text n).offset = resolve text n := by
  have determined (m n : Nat) (same : lineColumn text m = lineColumn text n) :
      resolve text m = resolve text n := by
    rw [← resolve_resolve text m, ← resolve_resolve text n]
    apply congrArg (resolve text)
    apply (lineColumn_strictMonoOn text).injOn (isBoundary_offset text m)
      (isBoundary_offset text n)
    rw [lineColumn_offset, lineColumn_offset, same]
  refine ⟨?_, fun m n => ⟨determined m n, fun same => by rw [lineColumn, same, ← lineColumn]⟩,
    lineColumn_mono text, offset_mono text, resolve_resolve text⟩
  have boundaries : {n | (⟨n⟩ : String.Pos.Raw).IsValid text} =
      {n | isBoundary text.toList n} := Set.ext fun _ => isBoundary_iff_isValid.symm
  let e := (OrderIso.setCongr _ _ boundaries).trans
    (((lineColumn_strictMonoOn text).orderIso _ _).trans
      (OrderIso.setCongr _ _ (lineColumn_image text)))
  refine ⟨e, fun n => ⟨rfl, ?_⟩⟩
  obtain ⟨before, after, split, size⟩ :=
    isBoundary_iff_exists_append.mp (isBoundary_iff_isValid.mpr n.property)
  rw [← size, resolve_of_split split]

/-- The last line is empty, and its only column is the first. -/
example : lineColumn "é\n" 3 = toLex (2, 1) := by decide

end Rerun.Position
