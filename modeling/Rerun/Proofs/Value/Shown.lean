import Mathlib
import Rerun.Proofs.Text.Cut
import Rerun.Value

/-! How a value is shown: the leaves of its tree, joined by commas.  No scalar but a float or
a reference has a comma in its text, and each can be read back from its text once its
constructor is known. -/

namespace Rerun

namespace Digits

theorem valueOf?_digitChar {d : Nat} (small : d < 16) : valueOf? d.digitChar = some d := by
  revert small
  revert d
  decide

theorem read?_concat {base n d : Nat} {chars : List Char} {c : Char}
    (front : chars = [] ∧ n = 0 ∨ read? base chars = some n) (digit : valueOf? c = some d)
    (small : d < base) : read? base (chars ++ [c]) = some (n * base + d) := by
  rcases front with ⟨rfl, rfl⟩ | front
  · simp [read?, digit, small]
  · rw [read?] at front ⊢
    split at front
    next => cases front
    next filled => simp [List.foldl_append, front, digit, small]

theorem read?_zeros {base : Nat} (positive : 0 < base) (count : Nat) :
    read? base (List.replicate (count + 1) '0') = some 0 := by
  induction count with
  | zero => simp [read?, valueOf?, positive]
  | succ count ih =>
      rw [List.replicate_succ']
      have digit : valueOf? '0' = some 0 := rfl
      simpa using read?_concat (.inr ih) digit positive

/-- Zeros in front do not change a number. -/
theorem read?_padded (zeros n : Nat) :
    read? 16 (List.replicate zeros '0' ++ Nat.toDigits 16 n) = some n := by
  induction n using Nat.strongRecOn with
  | ind n ih =>
    by_cases single : n < 16
    · rw [Nat.toDigits_of_lt_base single]
      have front : List.replicate zeros '0' = [] ∧ 0 = 0 ∨
          read? 16 (List.replicate zeros '0') = some 0 := by
        cases zeros with
        | zero => exact .inl ⟨rfl, rfl⟩
        | succ zeros => exact .inr (read?_zeros (by decide) zeros)
      simpa using read?_concat front (valueOf?_digitChar single) single
    · have big : 16 ≤ n := Nat.le_of_not_lt single
      have last : n % 16 < 16 := Nat.mod_lt n (by decide)
      rw [Nat.toDigits_of_base_le (by decide) big, ← List.append_assoc,
        read?_concat (.inr (ih (n / 16) (Nat.div_lt_self (by omega) (by decide))))
          (valueOf?_digitChar last) last, Nat.mul_comm, Nat.div_add_mod]

theorem hexPadded_inj {width m n : Nat} (same : hexPadded width m = hexPadded width n) :
    m = n := by
  have chars := String.ofList_injective same
  have numbers := congrArg (read? 16) chars
  rwa [read?_padded, read?_padded, Option.some.injEq] at numbers

theorem isHex_of_mem_toDigits {n : Nat} {c : Char} (member : c ∈ Nat.toDigits 16 n) :
    isHex c := by
  induction n using Nat.strongRecOn with
  | ind n ih =>
    by_cases single : n < 16
    · rw [Nat.toDigits_of_lt_base single, List.mem_singleton] at member
      rw [member, isHex, valueOf?_digitChar single, Option.isSome_some]
    · have big : 16 ≤ n := Nat.le_of_not_lt single
      rw [Nat.toDigits_of_base_le (by decide) big, List.mem_append, List.mem_singleton] at member
      rcases member with front | last
      · exact ih (n / 16) (Nat.div_lt_self (by omega) (by decide)) front
      · rw [last, isHex, valueOf?_digitChar (Nat.mod_lt n (by decide)), Option.isSome_some]

end Digits

namespace Value

/-! Leaves -/

mutual
/-- The leaves of the tree, from left to right. -/
def leaves : Value → List Value
  | multiple values => leavesAll values
  | leaf => [leaf]

def leavesAll : List Value → List Value
  | [] => []
  | value :: rest => value.leaves ++ leavesAll rest
end

mutual
/-- No multiple value in the tree is empty. -/
def isFilled : Value → Bool
  | multiple values => !values.isEmpty && allFilled values
  | _ => true

def allFilled : List Value → Bool
  | [] => true
  | value :: rest => value.isFilled && allFilled rest
end

/-- Whether the text of a scalar tells which scalar of its type it is, and where it ends. -/
def isPlain : Value → Bool
  | void | i32 _ | i64 _ | v128 _ => true
  | reference description => !description.toList.contains ','
  | f32 _ | f64 _ | multiple _ => false

mutual
theorem leaves_ne_nil : ∀ {value : Value}, value.isFilled → value.leaves ≠ []
  | multiple values, filled => by
      simp only [isFilled, Bool.and_eq_true, Bool.not_eq_true', List.isEmpty_eq_false_iff] at filled
      exact leavesAll_ne_nil filled.1 filled.2
  | void, _ | i32 _, _ | i64 _, _ | f32 _, _ | f64 _, _ | v128 _, _ | reference _, _ => by
      simp [leaves]

theorem leavesAll_ne_nil : ∀ {values : List Value}, values ≠ [] → allFilled values →
    leavesAll values ≠ []
  | [], nonempty, _ => absurd rfl nonempty
  | value :: rest, _, filled => by
      simp only [allFilled, Bool.and_eq_true] at filled
      simp [leavesAll, leaves_ne_nil filled.1]
end

mutual
/-- Nesting does not show. -/
theorem shown_eq_join : ∀ {value : Value}, value.isFilled →
    value.shown = ", ".intercalate (value.leaves.map shown)
  | multiple values, filled => by
      simp only [isFilled, Bool.and_eq_true, Bool.not_eq_true', List.isEmpty_eq_false_iff] at filled
      exact shownAll_eq_join filled.2
  | void, _ | i32 _, _ | i64 _, _ | f32 _, _ | f64 _, _ | v128 _, _ | reference _, _ => by
      simp [leaves]

theorem shownAll_eq_join : ∀ {values : List Value}, allFilled values →
    shownAll values = ", ".intercalate ((leavesAll values).map shown)
  | [], _ => rfl
  | [value], filled => by
      simp only [allFilled, Bool.and_true] at filled
      simpa [shownAll, leavesAll] using shown_eq_join filled
  | value :: next :: rest, filled => by
      simp only [allFilled, Bool.and_eq_true] at filled
      have others : allFilled (next :: rest) := by simp [allFilled, filled]
      have front := leaves_ne_nil filled.1
      have behind := leavesAll_ne_nil (List.cons_ne_nil next rest) others
      rw [shownAll, shown_eq_join filled.1, shownAll_eq_join others]
      change _ = ", ".intercalate ((value.leaves ++ leavesAll (next :: rest)).map shown)
      rw [List.map_append, String.intercalate_append_of_ne_nil
        (mt List.map_eq_nil_iff.mp front) (mt List.map_eq_nil_iff.mp behind)]
end

/-! Scalars -/

theorem comma_not_mem_toDigits (n : Nat) : ',' ∉ Nat.toDigits 10 n := fun member =>
  absurd (isDigit_of_mem_toDigits member) (by decide)

theorem comma_not_mem_toString (n : Int) : ',' ∉ (toString n).toList := by
  rw [Int.toString_eq_repr, Int.repr_eq_if]
  split
  · simpa [Nat.repr_eq_ofList_toDigits] using comma_not_mem_toDigits n.toNat
  · simpa [Nat.repr_eq_ofList_toDigits] using comma_not_mem_toDigits (-n).toNat

theorem comma_not_mem_shownVector (bits : BitVec 128) : ',' ∉ (shownVector bits).toList := by
  have digits : ',' ∉ Nat.toDigits 16 bits.toNat := fun member =>
    absurd (Digits.isHex_of_mem_toDigits member) (by decide)
  simpa [shownVector, Digits.hexPadded] using digits

theorem comma_not_mem_shown {value : Value} (plain : value.isPlain) :
    ',' ∉ value.shown.toList := by
  cases value with
  | void => simp [shown]
  | i32 value => exact comma_not_mem_toString value.toInt
  | i64 value => exact comma_not_mem_toString value.toInt
  | v128 bits => exact comma_not_mem_shownVector bits
  | reference description => simpa [isPlain, shown] using plain
  | f32 _ | f64 _ | multiple _ => cases plain

/-- A scalar of a known constructor is told by its text. -/
theorem eq_of_shown {value other : Value} (plain : value.isPlain)
    (kind : value.ctorIdx = other.ctorIdx) (same : value.shown = other.shown) :
    value = other := by
  cases value with
  | void =>
      cases other with
      | void => rfl
      | _ => simp [Value.ctorIdx] at kind
  | i32 value =>
      cases other with
      | i32 other =>
          simp only [shown, Int.toString_eq_repr, Int.repr_inj, Int32.toInt_inj] at same
          rw [same]
      | _ => simp [Value.ctorIdx] at kind
  | i64 value =>
      cases other with
      | i64 other =>
          simp only [shown, Int.toString_eq_repr, Int.repr_inj, Int64.toInt_inj] at same
          rw [same]
      | _ => simp [Value.ctorIdx] at kind
  | v128 bits =>
      cases other with
      | v128 other =>
          have digits : Digits.hexPadded 32 bits.toNat = Digits.hexPadded 32 other.toNat := by
            simpa [shown, shownVector] using same
          rw [BitVec.eq_of_toNat_eq (Digits.hexPadded_inj digits)]
      | _ => simp [Value.ctorIdx] at kind
  | reference description =>
      cases other with
      | reference other => exact congrArg reference same
      | _ => simp [Value.ctorIdx] at kind
  | f32 _ | f64 _ | multiple _ => cases plain

/-! Joined texts -/

/-- Texts without a comma can be told apart when they are joined by commas. -/
theorem join_inj : ∀ {texts others : List String}, texts.length = others.length →
    (∀ text ∈ texts, ',' ∉ text.toList) → (∀ text ∈ others, ',' ∉ text.toList) →
    ", ".intercalate texts = ", ".intercalate others → texts = others
  | [], [], _, _, _, _ => rfl
  | [text], [other], _, _, _, same => by simpa using same
  | text :: next :: rest, other :: after :: more, count, free, freeOthers, same => by
      have chars : text.toList ++ ',' :: ' ' :: (", ".intercalate (next :: rest)).toList =
          other.toList ++ ',' :: ' ' :: (", ".intercalate (after :: more)).toList := by
        simpa [String.intercalate_cons_cons, ← String.toList_inj] using same
      have outside {text : String} (free : ',' ∉ text.toList) :
          ∀ c ∈ text.toList, (c != ',') = true := by
        intro c member
        have different : c ≠ ',' := fun comma => free (comma ▸ member)
        simpa using different
      obtain ⟨front, behind⟩ := append_cons_inj (outside (free text (by simp)))
        (outside (freeOthers other (by simp))) rfl chars
      have others : next :: rest = after :: more := join_inj (by simpa using count)
        (fun text member => free text (List.mem_cons_of_mem _ member))
        (fun text member => freeOthers text (List.mem_cons_of_mem _ member))
        (String.toList_inj.mp (List.cons.inj behind).2)
      rw [String.toList_inj.mp front, others]

theorem eq_of_map_shown : ∀ {values others : List Value}, (∀ value ∈ values, value.isPlain) →
    values.map Value.ctorIdx = others.map Value.ctorIdx → values.map shown = others.map shown →
    values = others
  | [], [], _, _, _ => rfl
  | value :: rest, other :: more, plain, kinds, same => by
      simp only [List.map_cons, List.cons.injEq] at kinds same
      rw [eq_of_shown (plain value (by simp)) kinds.1 same.1,
        eq_of_map_shown (fun value member => plain value (List.mem_cons_of_mem _ member))
          kinds.2 same.2]

/-- Values whose leaves are of the same types, none of them a float, are shown alike only if
their leaves are the same. -/
theorem shown_eq_iff {value other : Value} (filled : value.isFilled)
    (filledOther : other.isFilled) (plain : ∀ leaf ∈ value.leaves, leaf.isPlain)
    (plainOther : ∀ leaf ∈ other.leaves, leaf.isPlain)
    (kinds : value.leaves.map Value.ctorIdx = other.leaves.map Value.ctorIdx) :
    value.shown = other.shown ↔ value.leaves = other.leaves := by
  rw [shown_eq_join filled, shown_eq_join filledOther]
  constructor
  · intro same
    apply eq_of_map_shown plain kinds
    have count : value.leaves.length = other.leaves.length := by
      simpa using congrArg List.length kinds
    have free {leaves : List Value} (plain : ∀ leaf ∈ leaves, leaf.isPlain) :
        ∀ text ∈ leaves.map shown, ',' ∉ text.toList := by
      intro text member
      obtain ⟨leaf, isLeaf, rfl⟩ := List.mem_map.mp member
      exact comma_not_mem_shown (plain leaf isLeaf)
    exact join_inj (by simpa using count) (free plain) (free plainOther) same
  · intro same
    rw [same]

end Value

end Rerun
