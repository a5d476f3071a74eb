import Mathlib.Data.List.Induction
import Rerun.Proofs.Text.Boundary

/-! The position of an offset.  It is what a scan of the characters before it comes to, and
what a search among the bytes of the text finds: back to a boundary, back to a line feed, and
over two slices of the text. -/

namespace Rerun.Position

/-- Line and column behind one more character. -/
def pass : Nat × Nat → Char → Nat × Nat
  | (line, _), '\n' => (line + 1, 1)
  | (line, column), _ => (line, column + 1)

def scan (chars : List Char) : Nat × Nat := chars.foldl pass (1, 1)

theorem lineAfter_concat (chars : List Char) (c : Char) :
    lineAfter (chars ++ [c]) = lineAfter chars + if c = '\n' then 1 else 0 := by
  by_cases feed : c = '\n' <;> simp [lineAfter, List.count_append, feed]

theorem columnAfter_concat (chars : List Char) (c : Char) :
    columnAfter (chars ++ [c]) = if c = '\n' then 1 else columnAfter chars + 1 := by
  by_cases feed : c = '\n' <;> simp [columnAfter, feed]

theorem columnAfter_append (chars : List Char) {line : List Char} (unbroken : '\n' ∉ line) :
    columnAfter (chars ++ line) = columnAfter chars + line.length := by
  induction line using List.reverseRecOn with
  | nil => rw [List.append_nil, List.length_nil, Nat.add_zero]
  | append_singleton line c ih =>
      rw [List.mem_append, not_or, List.mem_singleton] at unbroken
      rw [← List.append_assoc, columnAfter_concat, if_neg (Ne.symm unbroken.2), ih unbroken.1,
        List.length_append, List.length_singleton, Nat.add_assoc]

theorem scan_eq (chars : List Char) : scan chars = (lineAfter chars, columnAfter chars) := by
  induction chars using List.reverseRecOn with
  | nil => rfl
  | append_singleton chars c ih =>
      rw [scan, List.foldl_append, List.foldl_cons, List.foldl_nil, ← scan, ih, lineAfter_concat,
        columnAfter_concat]
      by_cases feed : c = '\n' <;> simp [pass, feed]

/-! ### Bytes -/

/-- Whether a byte goes on with a character that began before it. -/
def continues (byte : UInt8) : Bool := 0x80 ≤ byte && byte < 0xc0

/-- Whether a character begins at byte `n`, or the text ends there. -/
def beginsAt (text : String) (n : Nat) : Bool :=
  n == 0 ||
    match text.toByteArray[n]? with
    | some byte => !continues byte
    | none => n == text.utf8ByteSize

/-- The boundary that is reached from byte `n` in no more than so many steps back. -/
def retreat? (text : String) : Nat → Nat → Option Nat
  | steps + 1, n + 1 =>
      if beginsAt text (n + 1) then some (n + 1) else retreat? text steps n
  | _, n => if beginsAt text n then some n else none

/-- The text from one byte to another.  There is none if either is inside a character or beyond
the end, or if they are out of order. -/
def slice? (text : String) (start stop : Nat) : Option String :=
  if start ≤ stop && beginsAt text start && beginsAt text stop then
    String.fromUTF8? (text.toByteArray.extract start stop)
  else none

/-- The byte at which the last line feed is. -/
def lastFeed? : List Char → Option Nat
  | [] => none
  | c :: rest =>
      match lastFeed? rest with
      | some n => some (c.utf8Size + n)
      | none => if c = '\n' then some 0 else none

/-- The position of an offset by way of two slices, neither of which is known to exist. -/
def search? (steps : Nat) (text : String) (offset : Nat) : Option Position := do
  let start ← retreat? text steps (min offset text.utf8ByteSize)
  let before ← slice? text 0 start
  let lineStart := (lastFeed? before.toList).elim 0 (· + 1)
  let line ← slice? before lineStart before.utf8ByteSize
  return ⟨start, before.toList.count '\n' + 1, line.toList.length + 1⟩

private theorem continues_ofNat {n : Nat} (bound : n < 256) :
    continues (.ofNat n) = (decide (0x80 ≤ n) && decide (n < 0xc0)) := by
  simp [continues, UInt8.le_iff_toNat_le, UInt8.lt_iff_toNat_lt, Nat.mod_eq_of_lt bound]

private theorem continues_low (n : Nat) : continues (.ofNat (n % 64 + 128)) = true := by
  rw [continues_ofNat (by omega)]
  simp only [Bool.and_eq_true, decide_eq_true_eq]
  omega

private theorem not_continues_high {n : Nat} (above : 0xc0 ≤ n) (bound : n < 256) :
    continues (.ofNat n) = false := by
  rw [continues_ofNat bound]
  simp only [Bool.and_eq_false_iff, decide_eq_false_iff_not]
  omega

private theorem exists_utf8EncodeChar (c : Char) :
    ∃ lead tail, String.utf8EncodeChar c = lead :: tail ∧ continues lead = false ∧
      ∀ byte ∈ tail, continues byte = true := by
  unfold String.utf8EncodeChar
  simp only
  split
  next ascii =>
    refine ⟨_, [], rfl, ?_, by simp⟩
    rw [continues_ofNat (by omega)]
    simp only [Bool.and_eq_false_iff, decide_eq_false_iff_not]
    omega
  split
  next => exact ⟨_, _, rfl, not_continues_high (by omega) (by omega), by
      simp only [List.forall_mem_cons, continues_low, List.not_mem_nil, false_implies, implies_true,
        and_self]⟩
  split
  next => exact ⟨_, _, rfl, not_continues_high (by omega) (by omega), by
      simp only [List.forall_mem_cons, continues_low, List.not_mem_nil, false_implies, implies_true,
        and_self]⟩
  next => exact ⟨_, _, rfl, not_continues_high (by omega) (by omega), by
      simp only [List.forall_mem_cons, continues_low, List.not_mem_nil, false_implies, implies_true,
        and_self]⟩

private theorem continues_getElem_utf8EncodeChar {c : Char} {i : Nat}
    (inside : i < (String.utf8EncodeChar c).length) :
    continues (String.utf8EncodeChar c)[i] = false ↔ i = 0 := by
  obtain ⟨lead, tail, encoded, first, others⟩ := exists_utf8EncodeChar c
  simp only [encoded] at inside ⊢
  cases i with
  | zero => exact iff_of_true first rfl
  | succ i =>
      have inTail : i < tail.length := Nat.lt_of_succ_lt_succ inside
      have later : continues tail[i] = true := others _ (List.getElem_mem inTail)
      simp [later]
theorem isUTF8FirstByte_iff {text : String} {n : Nat} (inside : n < text.toByteArray.size) :
    text.toByteArray[n].IsUTF8FirstByte ↔ continues text.toByteArray[n] = false := by
  obtain ⟨chars, rfl⟩ := text.exists_eq_ofList
  have member : (String.ofList chars).toByteArray[n] ∈ chars.flatMap String.utf8EncodeChar := by
    simp only [String.toByteArray_ofList, List.utf8Encode, List.getElem_toByteArray]
    exact List.getElem_mem _
  obtain ⟨c, -, encoded⟩ := List.mem_flatMap.mp member
  obtain ⟨i, within, byte⟩ := List.getElem_of_mem encoded
  rw [← byte, UInt8.isUTF8FirstByte_getElem_utf8EncodeChar,
    continues_getElem_utf8EncodeChar within]

theorem beginsAt_iff_isValid {text : String} {n : Nat} :
    beginsAt text n ↔ (⟨n⟩ : String.Pos.Raw).IsValid text := by
  by_cases start : n = 0
  · subst start
    exact iff_of_true rfl String.Pos.Raw.isValid_zero
  · rw [String.Pos.Raw.isValid_iff_isUTF8FirstByte]
    by_cases inside : n < text.toByteArray.size
    · have found := getElem?_pos text.toByteArray n inside
      have short : n ≠ text.utf8ByteSize := Nat.ne_of_lt inside
      have reachable : (⟨n⟩ : String.Pos.Raw) < text.rawEndPos := inside
      have first := isUTF8FirstByte_iff inside
      simp [beginsAt, start, found, String.Pos.Raw.ext_iff, short, reachable,
        String.getUTF8Byte, first]
    · have missing := getElem?_neg text.toByteArray n inside
      have beyond : ¬(⟨n⟩ : String.Pos.Raw) < text.rawEndPos := inside
      simp [beginsAt, start, missing, String.Pos.Raw.ext_iff, beyond]

theorem beginsAt_eq_isBoundary (text : String) (n : Nat) :
    beginsAt text n = isBoundary text.toList n := by
  rw [Bool.eq_iff_iff, beginsAt_iff_isValid, isBoundary_iff_isValid]

theorem retreat?_eq_floor {text : String} {steps n : Nat}
    (near : n ≤ floor text.toList n + steps) :
    retreat? text steps n = some (floor text.toList n) := by
  induction steps generalizing n with
  | zero =>
      have here : floor text.toList n = n := Nat.le_antisymm (floor_le _ n) near
      have boundary := isBoundary_floor text.toList n
      rw [here] at boundary ⊢
      rw [retreat?.eq_2 _ _ _ (by simp), beginsAt_eq_isBoundary, if_pos boundary]
  | succ steps ih =>
      cases n with
      | zero => rfl
      | succ n =>
          rw [floor] at near ⊢
          rw [retreat?, beginsAt_eq_isBoundary]
          split at near
          next boundary => rw [if_pos boundary, if_pos boundary]
          next between =>
              rw [if_neg between, if_neg between]
              exact ih (by omega)

private theorem extract_middle (before middle after : String) :
    (before ++ (middle ++ after)).toByteArray.extract before.utf8ByteSize
      (before.utf8ByteSize + middle.utf8ByteSize) = middle.toByteArray := by
  have shifted := ByteArray.extract_append_size_add (a := before.toByteArray)
    (b := middle.toByteArray ++ after.toByteArray) (i := 0) (j := middle.utf8ByteSize)
  rw [String.toByteArray_append, String.toByteArray_append]
  exact shifted.trans (ByteArray.extract_append_eq_left rfl)

theorem slice?_eq_some {text : String} (before : List Char) {middle after : List Char}
    (split : text.toList = before ++ (middle ++ after)) :
    slice? text (byteSize before) (byteSize before + byteSize middle) =
      some (.ofList middle) := by
  have start : beginsAt text (byteSize before) := by
    rw [beginsAt_eq_isBoundary, isBoundary_iff_exists_append]
    exact ⟨before, middle ++ after, split, rfl⟩
  have stop : beginsAt text (byteSize before + byteSize middle) := by
    rw [beginsAt_eq_isBoundary, isBoundary_iff_exists_append]
    exact ⟨before ++ middle, after, by rw [split, List.append_assoc], byteSize_append ..⟩
  have whole : text = .ofList before ++ (.ofList middle ++ .ofList after) := by
    rw [← String.ofList_append, ← String.ofList_append, ← split, String.ofList_toList]
  have bytes : text.toByteArray.extract (byteSize before) (byteSize before + byteSize middle) =
      (String.ofList middle).toByteArray := by
    rw [whole, byteSize_eq_utf8ByteSize, byteSize_eq_utf8ByteSize, extract_middle]
  rw [slice?, start, stop, bytes, if_pos (by simp), String.fromUTF8?,
    dif_pos (String.ofList middle).isValidUTF8]
  rfl

theorem lastFeed?_eq_none {line : List Char} (unbroken : '\n' ∉ line) :
    lastFeed? line = none := by
  induction line with
  | nil => rfl
  | cons c rest ih =>
      rw [List.mem_cons, not_or] at unbroken
      rw [lastFeed?, ih unbroken.2]
      exact if_neg (Ne.symm unbroken.1)

theorem lastFeed?_append_feed {line : List Char} (unbroken : '\n' ∉ line)
    (front : List Char) : lastFeed? (front ++ '\n' :: line) = some (byteSize front) := by
  induction front with
  | nil =>
      rw [List.nil_append, lastFeed?, lastFeed?_eq_none unbroken]
      rfl
  | cons c rest ih => rw [List.cons_append, lastFeed?, ih, byteSize_cons]

/-- Behind the last line feed, or from the start, there is the last line. -/
theorem exists_line (chars : List Char) :
    ∃ front line, chars = front ++ line ∧
      (lastFeed? chars).elim 0 (· + 1) = byteSize front ∧ columnAfter chars = line.length + 1 := by
  by_cases broken : '\n' ∈ chars
  · obtain ⟨behind, ahead, split, unbroken⟩ :=
      List.eq_append_cons_of_mem (List.mem_reverse.mpr broken)
    have whole : chars = ahead.reverse ++ '\n' :: behind.reverse := by
      rw [← List.reverse_reverse chars, split]
      simp
    have line : '\n' ∉ behind.reverse := fun member => unbroken (List.mem_reverse.mp member)
    refine ⟨ahead.reverse ++ ['\n'], behind.reverse, by simpa using whole, ?_, ?_⟩
    · rw [whole, lastFeed?_append_feed line, byteSize_append]
      rfl
    · rw [whole, List.append_cons, columnAfter_append _ line, columnAfter_concat, if_pos rfl,
        Nat.add_comm]
  · refine ⟨[], chars, rfl, by rw [lastFeed?_eq_none broken]; rfl, ?_⟩
    have column := columnAfter_append [] broken
    rw [List.nil_append] at column
    rw [column, Nat.add_comm]
    rfl

theorem search?_eq_resolve (text : String) (offset more : Nat) :
    search? (3 + more) text offset = some (resolve text offset) := by
  have size := byteSize_toList text
  have inside : min offset text.utf8ByteSize ≤ byteSize text.toList := size ▸ Nat.min_le_right _ _
  have near := Nat.le_trans (le_floor_add_three inside)
    (Nat.add_le_add_left (Nat.le_add_right 3 more) _)
  obtain ⟨before, after, split, start⟩ :=
    isBoundary_iff_exists_append.mp (isBoundary_floor text.toList (min offset text.utf8ByteSize))
  obtain ⟨front, line, cut, lineStart, column⟩ := exists_line before
  have first : slice? text 0 (byteSize before) = some (.ofList before) := by
    have found := slice?_eq_some [] split
    rwa [show byteSize [] = 0 from rfl, Nat.zero_add] at found
  have second : slice? (.ofList before) (byteSize front) (String.ofList before).utf8ByteSize =
      some (.ofList line) := by
    have whole : (String.ofList before).toList = front ++ (line ++ []) := by
      rw [String.toList_ofList, List.append_nil, cut]
    rw [← byteSize_eq_utf8ByteSize, cut, byteSize_append, ← cut]
    exact slice?_eq_some front whole
  have place : resolve text offset =
      ⟨byteSize before, lineAfter before, columnAfter before⟩ := by
    simp only [resolve, size]
    rw [← start, split, charsBefore_append]
  rw [search?, retreat?_eq_floor near, ← start, place]
  simp [first, second, lineStart, column, lineAfter]

/-- The offset of a position is the last boundary up to the offset that was asked for, and line
and column are those of a scan over the characters before it.  To search for it by bytes takes
three steps back at most, and no slice on the way is out of range or inside a character. -/
theorem resolve_is_scan (text : String) (offset more : Nat) :
    let p := resolve text offset
    let last := min offset text.utf8ByteSize
    IsGreatest {n | n ≤ last ∧ (⟨n⟩ : String.Pos.Raw).IsValid text} p.offset ∧
    (∃ before after : String, text = before ++ after ∧ before.utf8ByteSize = p.offset ∧
      (p.line, p.column) = scan before.toList) ∧
    last ≤ p.offset + 3 ∧
    search? (3 + more) text offset = some p := by
  intro p last
  have size := byteSize_toList text
  have start : p.offset = floor text.toList last := by simp only [p, last, resolve, size]
  refine ⟨?_, ?_, ?_, search?_eq_resolve text offset more⟩
  · have greatest := floor_isGreatest text.toList last
    simp only [isBoundary_iff_isValid] at greatest
    exact start ▸ greatest
  · obtain ⟨before, after, split, length⟩ :=
      isBoundary_iff_exists_append.mp (isBoundary_floor text.toList last)
    refine ⟨.ofList before, .ofList after, ?_, ?_, ?_⟩
    · rw [← String.ofList_append, ← split, String.ofList_toList]
    · rw [← byteSize_eq_utf8ByteSize, length, start]
    · have seen : charsBefore text.toList p.offset = before := by
        rw [start, ← length, split, charsBefore_append]
      rw [String.toList_ofList, scan_eq, ← seen, start]
      simp only [p, last, resolve, size]
  · rw [start]
    exact le_floor_add_three (size ▸ Nat.min_le_right _ _)

/-- The offset is inside the last character, which is the first of its line. -/
example : resolve "é\n€" 5 = ⟨3, 2, 1⟩ := by decide

end Rerun.Position
