/-! Lists cut in two at the first element that does not belong in front. -/

namespace Rerun

section Cut

variable {α : Type} {p : α → Bool} {l m : List α} {a : α} {rest more : List α}

theorem takeWhile_append_cons (inside : ∀ x ∈ l, p x) (ends : p a = false) (rest : List α) :
    (l ++ a :: rest).takeWhile p = l := by
  rw [List.takeWhile_append_of_pos inside, List.takeWhile_cons_of_neg (by simp [ends]),
    List.append_nil]

theorem dropWhile_append_cons (inside : ∀ x ∈ l, p x) (ends : p a = false) (rest : List α) :
    (l ++ a :: rest).dropWhile p = a :: rest := by
  rw [List.dropWhile_append_of_pos inside, List.dropWhile_cons_of_neg (by simp [ends])]

/-- Two lists are cut alike at the first element that does not belong in front. -/
theorem append_cons_inj (insideLeft : ∀ x ∈ l, p x) (insideRight : ∀ x ∈ m, p x)
    (ends : p a = false) (same : l ++ a :: rest = m ++ a :: more) : l = m ∧ rest = more := by
  have front : l = m := by
    rw [← takeWhile_append_cons insideLeft ends rest, same,
      takeWhile_append_cons insideRight ends more]
  subst front
  exact ⟨rfl, (List.cons.inj (List.append_cancel_left same)).2⟩

end Cut

theorem isDigit_of_mem_toDigits {n : Nat} {c : Char} (member : c ∈ Nat.toDigits 10 n) :
    c.isDigit :=
  Nat.isDigit_of_mem_toDigits (by decide) (by decide) member

/-- Two numbers are read alike up to the first character that is no digit. -/
theorem toDigits_append_cons_inj {m n : Nat} {c : Char} {rest more : List Char}
    (ends : c.isDigit = false)
    (same : Nat.toDigits 10 m ++ c :: rest = Nat.toDigits 10 n ++ c :: more) :
    m = n ∧ rest = more := by
  obtain ⟨digits, tails⟩ := append_cons_inj (fun _ => isDigit_of_mem_toDigits)
    (fun _ => isDigit_of_mem_toDigits) ends same
  refine ⟨?_, tails⟩
  have numbers := congrArg (Nat.ofDigitChars 10 · 0) digits
  simpa only [Nat.ofDigitChars_toDigits (by decide : 1 < 10) (Nat.le_refl 10)] using numbers

end Rerun
