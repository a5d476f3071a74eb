import Rerun.Proofs.Json.RoundTrip
import Rerun.Proofs.Value.Shown

/-! The characters of a shown value.  Numbers are digits, points, signs and a few letters, so
that no value breaks the line that it stands on, if no reference in it does. -/

namespace Rerun

open Json (Printable printable_append)

theorem Digits.le_toNat_of_isHex {c : Char} (hex : isHex c) : 0x20 ≤ c.toNat := by
  have low {bound : Char} (start : 0x20 ≤ bound.toNat) (above : bound ≤ c) : 0x20 ≤ c.toNat :=
    Nat.le_trans start (Char.le_def.mp above)
  rw [isHex, valueOf?] at hex
  split at hex
  next range => exact low (by decide) range.1
  next =>
    split at hex
    next range => exact low (by decide) range.1
    next =>
      split at hex
      next range => exact low (by decide) range.1
      next => cases hex

theorem Digits.printable_hexPadded (width n : Nat) : Printable (hexPadded width n) := by
  intro c member
  rw [hexPadded, String.toList_ofList] at member
  rcases List.mem_append.mp member with zero | digit
  · rw [List.eq_of_mem_replicate zero]
    decide
  · exact le_toNat_of_isHex (isHex_of_mem_toDigits digit)

theorem printable_toString_int (n : Int) : Printable (toString n) := by
  rw [Int.toString_eq_repr, Int.repr_eq_if]
  split
  · exact Json.printable_toString n.toNat
  · exact printable_append (by decide) (Json.printable_toString (-n).toNat)

namespace FloatFormat

theorem mem_of_mem_trimmed {p : Char → Bool} {chars : List Char} {c : Char}
    (member : c ∈ (chars.reverse.dropWhile p).reverse) : c ∈ chars := by
  rw [List.mem_reverse] at member
  exact List.mem_reverse.mp ((List.dropWhile_sublist p).subset member)

theorem isDigit_or_point_of_mem_positional {d : Decimal} {c : Char}
    (member : c ∈ d.positional.toList) : c.isDigit ∨ c = '.' := by
  have zero {count : Nat} (member : c ∈ List.replicate count '0') : c.isDigit := by
    rw [List.eq_of_mem_replicate member]
    rfl
  have digit (member : c ∈ (toString d.digits).toList) : c.isDigit :=
    isDigit_of_mem_toDigits (n := d.digits) (by simpa using member)
  have padded {count : Nat}
      (member : c ∈ List.replicate count '0' ++ (toString d.digits).toList) : c.isDigit :=
    (List.mem_append.mp member).elim zero digit
  rw [Decimal.positional] at member
  dsimp only at member
  split at member
  · rw [String.toList_append, zeros, String.toList_ofList, String.toList_ofList] at member
    exact .inl ((List.mem_append.mp member).elim digit zero)
  · split at member
    · rw [String.toList_ofList] at member
      exact .inl (padded (List.mem_of_mem_take member))
    · rw [String.toList_ofList] at member
      rcases List.mem_append.mp member with whole | behind
      · exact .inl (padded (List.mem_of_mem_take whole))
      · rcases List.mem_cons.mp behind with point | fraction
        · exact .inr point
        · exact .inl (padded (List.mem_of_mem_drop (mem_of_mem_trimmed fraction)))

theorem printable_positional (d : Decimal) : Printable d.positional := by
  intro c member
  rcases isDigit_or_point_of_mem_positional member with digit | rfl
  · exact Json.le_toNat_of_isDigit digit
  · decide

theorem printable_shown (format : FloatFormat) (bits : Nat) : Printable (format.shown bits) := by
  rw [shown]
  split
  · decide
  next negative _ => cases negative <;> decide
  next negative significand exponent _ =>
    apply printable_append
    · cases negative <;> decide
    · split
      · decide
      · exact printable_positional _

end FloatFormat

namespace Value

mutual
/-- Only the description of a reference can hold a control character. -/
theorem printable_shown : ∀ {value : Value},
    (∀ description, .reference description ∈ value.leaves → Printable description) →
      Printable value.shown
  | void, _ => by rw [shown]; decide
  | i32 n, _ | i64 n, _ => printable_toString_int n.toInt
  | f32 _, _ | f64 _, _ => FloatFormat.printable_shown _ _
  | v128 bits, _ => printable_append (by decide) (Digits.printable_hexPadded 32 bits.toNat)
  | reference description, printable => printable description (by simp [leaves])
  | multiple values, printable => printable_shownAll (by simpa only [leaves] using printable)

theorem printable_shownAll : ∀ {values : List Value},
    (∀ description, .reference description ∈ leavesAll values → Printable description) →
      Printable (shownAll values)
  | [], _ => by rw [shownAll]; decide
  | [value], printable => by
      rw [shownAll]
      exact printable_shown (by simpa [leavesAll] using printable)
  | value :: next :: rest, printable => by
      have parted : ∀ description, .reference description ∈ value.leaves ∨
          .reference description ∈ leavesAll (next :: rest) → Printable description := by
        intro description member
        apply printable
        rw [leavesAll]
        exact List.mem_append.mpr member
      rw [shownAll]
      apply printable_append
      · exact printable_append
          (printable_shown fun description member => parted description (.inl member)) (by decide)
      · exact printable_shownAll fun description member => parted description (.inr member)
end

end Value

end Rerun
