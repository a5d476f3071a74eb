import Mathlib.Data.List.Forall2
import Rerun.Proofs.Json.Reader
import Rerun.Proofs.Text.Cut
import Rerun.Text.Quoted

/-! Objects of texts and numbers are read as they were written, and are written on one line. -/

namespace Rerun.Json

theorem skip_cons {c : Char} (notBlank : isBlank c = false) (rest : List Char) :
    skip (c :: rest) = c :: rest :=
  List.dropWhile_cons_of_neg (by simp [notBlank])

theorem behind?_cons {c : Char} (notBlank : isBlank c = false) (mark : Char) (rest : List Char) :
    behind? mark (c :: rest) = if c = mark then some rest else none := by
  rw [behind?, skip_cons notBlank]

theorem head?_escape_append (c : Char) (rest : List Char) :
    (escape c ++ rest).head? ≠ some '"' := by
  unfold escape
  split
  case h_8 notQuote _ _ _ _ _ _ =>
    split
    · simp
    · simpa using notQuote
  all_goals simp

theorem unit?_byteHex {n : Nat} (small : n < 0x20) (rest : List Char) :
    unit? ('0' :: '0' :: (Digits.byteHex n.toUInt8 ++ rest)) = some (n, rest) := by
  have digits : ∀ n < 0x20, Digits.read? 16 ('0' :: '0' :: Digits.byteHex n.toUInt8) = some n := by
    decide
  change (Digits.read? 16 ('0' :: '0' :: Digits.byteHex n.toUInt8)).map (·, rest) = _
  rw [digits n small]
  rfl

theorem char?_escape_append (c : Char) (rest : List Char) :
    char? (escape c ++ rest) = some (c, rest) := by
  unfold escape
  split
  case h_8 _ notBackslash _ _ _ _ _ =>
    split
    next control =>
      change coded? ('0' :: '0' :: (Digits.byteHex c.toNat.toUInt8 ++ rest)) = _
      rw [coded?, unit?_byteHex control]
      simp only [Option.bind_eq_bind, Option.bind_some]
      rw [if_pos (Or.inl (by omega)), Char.ofNat_toNat]
      rfl
    next printable =>
      simp only [List.singleton_append, char?]
      rw [if_neg notBackslash, if_neg printable]
  all_goals rfl

theorem content?_of_char? {chars rest : List Char} {c : Char} (inside : chars.head? ≠ some '"')
    (read : char? chars = some (c, rest)) :
    content? chars = (content? rest).map fun (more, rest) => (c :: more, rest) := by
  rw [content?, if_neg inside]
  split
  next stuck => cases read.symm.trans stuck
  next read' =>
    cases read.symm.trans read'
    rfl

theorem content?_escaped (content rest : List Char) :
    content? (content.flatMap escape ++ '"' :: rest) = some (content, rest) := by
  induction content with
  | nil =>
      rw [content?]
      rfl
  | cons c content ih =>
      rw [List.flatMap_cons, List.append_assoc,
        content?_of_char? (head?_escape_append c _) (char?_escape_append c _), ih]
      rfl

theorem string_toList (s : String) :
    (string s).toList = '"' :: (s.toList.flatMap escape ++ ['"']) := by
  simp [string]

theorem toDigits_eq_cons {n : Nat} (positive : 0 < n) :
    ∃ d digits, Nat.toDigits 10 n = d :: digits ∧ d ≠ '0' := by
  induction n using Nat.strongRecOn with
  | ind n ih =>
      by_cases single : n < 10
      · refine ⟨n.digitChar, [], Nat.toDigits_of_lt_base single, ?_⟩
        simpa only [ne_eq, Nat.digitChar_eq_zero] using Nat.ne_of_gt positive
      · obtain ⟨d, digits, front, notZero⟩ := ih (n / 10) (by omega) (by omega)
        refine ⟨d, digits ++ [(n % 10).digitChar], ?_, notZero⟩
        rw [Nat.toDigits_of_base_le (by decide) (Nat.le_of_not_lt single), front, List.cons_append]

theorem toDigits_eq_cons_digit (n : Nat) :
    ∃ d digits, Nat.toDigits 10 n = d :: digits ∧ d.isDigit := by
  obtain ⟨d, digits, front⟩ := List.exists_cons_of_ne_nil (Nat.toDigits_ne_nil (n := n) (b := 10))
  exact ⟨d, digits, front, isDigit_of_mem_toDigits (front ▸ List.mem_cons_self)⟩

theorem ne_of_isDigit {c d : Char} (digit : c.isDigit) (other : d.isDigit = false) : c ≠ d := by
  rintro rfl
  rw [digit] at other
  cases other

section Number

variable (n : Nat) {c : Char} (ends : c = ',' ∨ c = '\x7d') (rest : List Char)

include ends

theorem digits?_toDigits :
    digits? (Nat.toDigits 10 n ++ c :: rest) = some (Nat.toDigits 10 n, c :: rest) := by
  have notDigit : c.isDigit = false := by
    rcases ends with rfl | rfl <;> rfl
  rw [digits?, takeWhile_append_cons (fun _ => isDigit_of_mem_toDigits) notDigit,
    dropWhile_append_cons (fun _ => isDigit_of_mem_toDigits) notDigit]
  split
  next nothing => exact absurd nothing Nat.toDigits_ne_nil
  next => rfl

theorem whole?_toDigits :
    whole? (Nat.toDigits 10 n ++ c :: rest) = some (Nat.toDigits 10 n, c :: rest) := by
  rcases Nat.eq_zero_or_pos n with rfl | positive
  · rfl
  · obtain ⟨d, digits, front, notZero⟩ := toDigits_eq_cons positive
    have all := digits?_toDigits n ends rest
    rw [front] at all ⊢
    unfold whole?
    split
    next zero => exact absurd (List.cons.inj zero).1 notZero
    next => exact all

theorem positive?_toDigits :
    positive? (Nat.toDigits 10 n ++ c :: rest) = some (n, 0, c :: rest) := by
  have value := Nat.ofDigitChars_toDigits (n := n) (by decide : 1 < 10) (Nat.le_refl 10)
  rcases ends with rfl | rfl
  · simp [positive?, whole?_toDigits n (Or.inl rfl), places?, exponent?, value]
  · simp [positive?, whole?_toDigits n (Or.inr rfl), places?, exponent?, value]

theorem number?_toDigits :
    number? (Nat.toDigits 10 n ++ c :: rest) = some (.number n 0, c :: rest) := by
  have all := positive?_toDigits n ends rest
  unfold number?
  split
  next minus =>
    obtain ⟨d, digits, front, digit⟩ := toDigits_eq_cons_digit n
    rw [front] at minus
    exact absurd (List.cons.inj minus).1 (ne_of_isDigit digit rfl)
  next => rw [all]; rfl

theorem value?_toDigits (fuel : Nat) :
    value? (fuel + 1) (Nat.toDigits 10 n ++ c :: rest) = some (.number n 0, c :: rest) := by
  have all := number?_toDigits n ends rest
  obtain ⟨d, digits, front, digit⟩ := toDigits_eq_cons_digit n
  rw [front, List.cons_append] at all ⊢
  have notBlank : isBlank d = false := by
    simp [isBlank, ne_of_isDigit digit (d := ' ') rfl, ne_of_isDigit digit (d := '\t') rfl,
      ne_of_isDigit digit (d := '\n') rfl, ne_of_isDigit digit (d := '\r') rfl]
  rw [value?, skip_cons notBlank]
  dsimp only
  rw [if_neg (ne_of_isDigit digit rfl), if_neg (ne_of_isDigit digit rfl),
    if_neg (ne_of_isDigit digit rfl), all, Option.some_or]

end Number

theorem value?_string (s : String) (rest : List Char) (fuel : Nat) :
    value? (fuel + 1) ((string s).toList ++ rest) = some (.string s, rest) := by
  have content := content?_escaped s.toList rest
  rw [string_toList, List.cons_append, List.append_assoc, List.singleton_append, value?,
    skip_cons rfl]
  dsimp only
  rw [if_pos rfl, content]
  simp

theorem string?_string (s : String) (rest : List Char) :
    string? ((string s).toList ++ rest) = some (s, rest) := by
  have content := content?_escaped s.toList rest
  rw [string_toList, List.cons_append, List.append_assoc, List.singleton_append, string?,
    behind?_cons rfl, if_pos rfl]
  simp [content]

/-- A text that is read as the data, whatever else is in the object behind it. -/
def Stands (text : String) (data : Data) : Prop :=
  ∀ fuel {c : Char} (rest : List Char), c = ',' ∨ c = '\x7d' →
    value? (fuel + 1) (text.toList ++ c :: rest) = some (data, c :: rest)

/-- A member as it is written, and as it is read. -/
def IsMember (written : String × String) (read : String × Data) : Prop :=
  written.1 = read.1 ∧ Stands written.2 read.2

theorem stands_string (s : String) : Stands (string s) (.string s) := by
  intro fuel c rest _
  exact value?_string s (c :: rest) fuel

theorem stands_toString (n : Nat) : Stands (toString n) (.number n 0) := by
  intro fuel c rest ends
  simpa using value?_toDigits n ends rest fuel

/-- The members of an object, without its braces. -/
def body (members : List (String × String)) : List Char :=
  (",".intercalate (members.map fun (key, value) => string key ++ ":" ++ value)).toList

theorem object_toList (members : List (String × String)) :
    (object members).toList = '\x7b' :: (body members ++ ['\x7d']) := by
  simp [object, body]

theorem body_singleton (key value : String) :
    body [(key, value)] = (string key).toList ++ ':' :: value.toList := by
  simp [body]

theorem body_cons_cons (key value : String) (next : String × String)
    (more : List (String × String)) :
    body ((key, value) :: next :: more) =
      (string key).toList ++ ':' :: (value.toList ++ ',' :: body (next :: more)) := by
  simp [body, String.intercalate_cons_cons]

section Member

variable {key value : String} {data : Data} (stands : Stands value data) (rest : List Char)
  (fuel : Nat)

include stands

theorem members?_next :
    members? (fuel + 2) ((string key).toList ++ ':' :: (value.toList ++ ',' :: rest)) =
      (members? (fuel + 1) rest).map fun (more, rest) => ((key, data) :: more, rest) := by
  rw [members?, string?_string]
  simp only [Option.bind_eq_bind, Option.bind_some, behind?_cons (c := ':') rfl, if_true]
  rw [stands fuel rest (Or.inl rfl)]
  simp only [Option.bind_some, behind?_cons (c := ',') rfl, if_true]
  cases members? (fuel + 1) rest <;> rfl

theorem members?_last :
    members? (fuel + 2) ((string key).toList ++ ':' :: (value.toList ++ '\x7d' :: rest)) =
      some ([(key, data)], rest) := by
  rw [members?, string?_string]
  simp only [Option.bind_eq_bind, Option.bind_some, behind?_cons (c := ':') rfl, if_true]
  rw [stands fuel rest (Or.inr rfl)]
  rfl

end Member

theorem members?_body {members : List (String × String)} {all : List (String × Data)}
    (stand : List.Forall₂ IsMember members all)
    (nonempty : members ≠ []) (rest : List Char) {fuel : Nat}
    (enough : (body members).length < fuel) :
    members? fuel (body members ++ '\x7d' :: rest) = some (all, rest) := by
  induction stand generalizing fuel with
  | nil => exact absurd rfl nonempty
  | @cons written read members all first others ih =>
      obtain ⟨key, value⟩ := written
      obtain ⟨_, data⟩ := read
      obtain ⟨rfl, stands⟩ := first
      cases others with
      | nil =>
          rw [body_singleton] at enough ⊢
          rw [List.length_append, List.length_cons] at enough
          rw [List.append_assoc, List.cons_append]
          obtain ⟨fuel, rfl⟩ : ∃ n, fuel = n + 2 := ⟨fuel - 2, by omega⟩
          exact members?_last stands rest fuel
      | @cons next _ more _ _ _ =>
          rw [body_cons_cons] at enough ⊢
          simp only [List.length_append, List.length_cons] at enough
          obtain ⟨fuel, rfl⟩ : ∃ n, fuel = n + 2 := ⟨fuel - 2, by omega⟩
          have tail := @ih (List.cons_ne_nil _ _) (fuel + 1) (by omega)
          rw [List.append_assoc, List.cons_append, List.append_assoc, List.cons_append,
            members?_next stands, tail]
          rfl

theorem behind?_body {members : List (String × String)} (nonempty : members ≠ [])
    (rest : List Char) : behind? '\x7d' (body members ++ rest) = none := by
  match members, nonempty with
  | [(key, value)], _ =>
      rw [body_singleton, string_toList, List.cons_append, List.cons_append, behind?_cons rfl]
      exact if_neg (by decide)
  | (key, value) :: next :: more, _ =>
      rw [body_cons_cons, string_toList, List.cons_append, List.cons_append, behind?_cons rfl]
      exact if_neg (by decide)

theorem read?_object {members : List (String × String)} {all : List (String × Data)}
    (stand : List.Forall₂ IsMember members all) :
    read? (object members) = some (.object all) := by
  have length : (object members).length = (body members).length + 2 := by
    rw [← String.length_toList, object_toList, List.length_cons, List.length_append]
    rfl
  have whole : value? ((body members).length + 3) ('\x7b' :: (body members ++ ['\x7d'])) =
      some (.object all, []) := by
    rw [value?, skip_cons rfl]
    dsimp only
    rw [if_neg (by decide), if_neg (by decide), if_pos rfl]
    by_cases nothing : members = []
    · subst nothing
      cases stand
      rfl
    · rw [members?_body stand nothing [] (by omega), behind?_body nothing]
      rfl
  rw [read?, length, object_toList, whole]
  rfl

/-! ### What is written is on one line -/

theorem printable_byteHex {n : Nat} (small : n < 0x20) :
    ∀ c ∈ Digits.byteHex n.toUInt8, 0x20 ≤ c.toNat := by
  have digits : ∀ n < 0x20, (Digits.byteHex n.toUInt8).all (0x20 ≤ ·.toNat) := by decide
  simpa using digits n small

theorem printable_escape (c : Char) : ∀ d ∈ escape c, 0x20 ≤ d.toNat := by
  unfold escape
  split
  case h_8 =>
    split
    next control =>
      have front : ∀ d ∈ ['\\', 'u', '0', '0'], 0x20 ≤ d.toNat := by simp
      intro d member
      exact (List.mem_append.mp member).elim (front d) (printable_byteHex control d)
    next printable => simpa using printable
  all_goals simp

/-- A text without control characters, line ends among them. -/
def Printable (text : String) : Prop := ∀ c ∈ text.toList, 0x20 ≤ c.toNat

instance (text : String) : Decidable (Printable text) :=
  List.decidableBAll (fun c : Char => 0x20 ≤ c.toNat) text.toList

theorem printable_append {s t : String} (first : Printable s) (second : Printable t) :
    Printable (s ++ t) := by
  intro c member
  rw [String.toList_append] at member
  exact (List.mem_append.mp member).elim (first c) (second c)

theorem printable_string (s : String) : Printable (string s) := by
  intro c member
  rw [string_toList] at member
  simp only [List.mem_cons, List.mem_append, List.mem_flatMap, List.not_mem_nil, or_false] at member
  obtain rfl | ⟨d, _, escaped⟩ | rfl := member
  · decide
  · exact printable_escape d c escaped
  · decide

theorem le_toNat_of_isDigit {c : Char} (digit : c.isDigit) : 0x20 ≤ c.toNat := by
  simp only [Char.isDigit, Bool.and_eq_true, decide_eq_true_eq, ge_iff_le, UInt32.le_iff_toNat_le]
    at digit
  exact Nat.le_trans (by decide) digit.1

theorem printable_toString (n : Nat) : Printable (toString n) := by
  intro c member
  exact le_toNat_of_isDigit (isDigit_of_mem_toDigits (n := n) (by simpa using member))

theorem printable_intercalate {separator : String} (between : Printable separator)
    {texts : List String} (printable : ∀ text ∈ texts, Printable text) :
    Printable (separator.intercalate texts) := by
  match texts with
  | [] => exact fun c member => absurd member (by simp)
  | [text] => simpa using printable
  | text :: next :: more =>
      rw [List.forall_mem_cons] at printable
      rw [String.intercalate_cons_cons]
      exact printable_append (printable_append printable.1 between)
        (printable_intercalate between printable.2)

theorem printable_object {members : List (String × String)}
    (printable : ∀ m ∈ members, Printable m.2) : Printable (object members) := by
  have member : ∀ text ∈ members.map fun (key, value) => string key ++ ":" ++ value,
      Printable text := by
    intro text written
    obtain ⟨⟨key, value⟩, member, rfl⟩ := List.mem_map.mp written
    have front : Printable (string key ++ ":") := printable_append (printable_string key) (by decide)
    exact printable_append front (printable _ member)
  exact printable_append (printable_append (by decide)
    (printable_intercalate (by decide) member)) (by decide)

end Rerun.Json
