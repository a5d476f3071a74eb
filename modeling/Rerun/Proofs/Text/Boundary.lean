import Mathlib.Order.Bounds.Defs
import Rerun.Text.Position

/-! Boundaries between the characters of a text.  They are where a text can be split in two,
and none is more than three bytes behind another byte of the text. -/

namespace Rerun.Position

theorem byteSize_cons (c : Char) (rest : List Char) :
    byteSize (c :: rest) = c.utf8Size + byteSize rest := rfl

theorem byteSize_append (before after : List Char) :
    byteSize (before ++ after) = byteSize before + byteSize after := by
  induction before with
  | nil => exact (Nat.zero_add _).symm
  | cons c rest ih =>
      rw [List.cons_append, byteSize_cons, byteSize_cons, ih, Nat.add_assoc]

theorem byteSize_eq_utf8ByteSize (chars : List Char) :
    byteSize chars = (String.ofList chars).utf8ByteSize := by
  induction chars with
  | nil => rfl
  | cons c rest ih =>
      rw [String.ofList_cons, String.utf8ByteSize_append, String.utf8ByteSize_singleton, ← ih,
        byteSize_cons]

theorem byteSize_toList (text : String) : byteSize text.toList = text.utf8ByteSize := by
  rw [byteSize_eq_utf8ByteSize, String.ofList_toList]

theorem charsBefore_append (before after : List Char) :
    charsBefore (before ++ after) (byteSize before) = before := by
  induction before with
  | nil =>
      cases after with
      | nil => rfl
      | cons c rest =>
          have wide : ¬c.utf8Size ≤ byteSize [] := Nat.not_le_of_lt c.utf8Size_pos
          rw [List.nil_append, charsBefore, if_neg wide]
  | cons c rest ih =>
      have fits : c.utf8Size ≤ byteSize (c :: rest) := Nat.le_add_right _ _
      rw [List.cons_append, charsBefore, if_pos fits, byteSize_cons, Nat.add_sub_cancel_left, ih]

theorem isBoundary_cons_succ (c : Char) (rest : List Char) (n : Nat) :
    isBoundary (c :: rest) (n + 1) =
      (decide (c.utf8Size ≤ n + 1) && isBoundary rest (n + 1 - c.utf8Size)) := rfl

theorem isBoundary_iff_exists_append {chars : List Char} {n : Nat} :
    isBoundary chars n ↔
      ∃ before after, chars = before ++ after ∧ byteSize before = n := by
  induction chars generalizing n with
  | nil =>
      cases n with
      | zero => exact iff_of_true rfl ⟨[], [], rfl, rfl⟩
      | succ n =>
          refine iff_of_false Bool.false_ne_true ?_
          rintro ⟨before, after, split, size⟩
          obtain ⟨rfl, rfl⟩ := List.append_eq_nil_iff.mp split.symm
          cases size
  | cons c rest ih =>
      cases n with
      | zero => exact iff_of_true rfl ⟨[], c :: rest, rfl, rfl⟩
      | succ n =>
          rw [isBoundary_cons_succ, Bool.and_eq_true, decide_eq_true_eq, ih]
          constructor
          · rintro ⟨fits, before, after, rfl, size⟩
            refine ⟨c :: before, after, rfl, ?_⟩
            rw [byteSize_cons]
            omega
          · rintro ⟨before, after, split, size⟩
            cases before with
            | nil => cases size
            | cons first before =>
                obtain ⟨rfl, rfl⟩ := List.cons.inj split
                rw [byteSize_cons] at size
                exact ⟨by omega, before, after, rfl, by omega⟩

theorem isBoundary_iff_isValid {text : String} {n : Nat} :
    isBoundary text.toList n ↔ (⟨n⟩ : String.Pos.Raw).IsValid text := by
  rw [isBoundary_iff_exists_append, String.Pos.Raw.isValid_iff_exists_append]
  constructor
  · rintro ⟨before, after, split, rfl⟩
    refine ⟨.ofList before, .ofList after, ?_, ?_⟩
    · rw [← String.ofList_append, ← split, String.ofList_toList]
    · exact congrArg String.Pos.Raw.mk (byteSize_eq_utf8ByteSize before)
  · rintro ⟨before, after, rfl, place⟩
    refine ⟨before.toList, after.toList, String.toList_append, ?_⟩
    rw [byteSize_toList]
    exact (congrArg String.Pos.Raw.byteIdx place).symm

theorem floor_le (chars : List Char) (n : Nat) : floor chars n ≤ n := by
  induction n with
  | zero => exact Nat.le_refl 0
  | succ n ih =>
      rw [floor]
      split
      · exact Nat.le_refl _
      · exact Nat.le_succ_of_le ih

theorem isBoundary_floor (chars : List Char) (n : Nat) : isBoundary chars (floor chars n) := by
  induction n with
  | zero => cases chars <;> rfl
  | succ n ih =>
      rw [floor]
      split
      next here => exact here
      next => exact ih

theorem le_floor {chars : List Char} {m n : Nat} (bound : m ≤ n)
    (boundary : isBoundary chars m) : m ≤ floor chars n := by
  induction n with
  | zero => exact bound
  | succ n ih =>
      rw [floor]
      split
      next => exact bound
      next between =>
          have other : m ≠ n + 1 := fun same => between (same ▸ boundary)
          exact ih (by omega)

theorem floor_isGreatest (chars : List Char) (n : Nat) :
    IsGreatest {m | m ≤ n ∧ isBoundary chars m} (floor chars n) :=
  ⟨⟨floor_le chars n, isBoundary_floor chars n⟩, fun _ member => le_floor member.1 member.2⟩

/-- A byte of a character is among the three that follow its first. -/
theorem exists_isBoundary_near {chars : List Char} {n : Nat} (inside : n ≤ byteSize chars) :
    ∃ m, m ≤ n ∧ n ≤ m + 3 ∧ isBoundary chars m := by
  induction chars generalizing n with
  | nil => exact ⟨n, Nat.le_refl n, Nat.le_add_right n 3, Nat.le_zero.mp inside ▸ rfl⟩
  | cons c rest ih =>
      rw [byteSize_cons] at inside
      have narrow := c.utf8Size_le_four
      by_cases fits : c.utf8Size ≤ n
      · obtain ⟨m, below, near, boundary⟩ := ih (n := n - c.utf8Size) (by omega)
        obtain ⟨before, after, split, size⟩ := isBoundary_iff_exists_append.mp boundary
        refine ⟨c.utf8Size + m, by omega, by omega, isBoundary_iff_exists_append.mpr ?_⟩
        exact ⟨c :: before, after, by rw [split]; rfl, congrArg (c.utf8Size + ·) size⟩
      · exact ⟨0, Nat.zero_le n, by omega, rfl⟩

theorem le_floor_add_three {chars : List Char} {n : Nat} (inside : n ≤ byteSize chars) :
    n ≤ floor chars n + 3 := by
  obtain ⟨m, below, near, boundary⟩ := exists_isBoundary_near inside
  exact Nat.le_trans near (Nat.add_le_add_right (le_floor below boundary) 3)

end Rerun.Position
