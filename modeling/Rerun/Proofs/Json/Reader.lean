import Rerun.Text.Digits

/-! Reading JSON, of any kind and with blanks wherever they may be. -/

namespace Rerun.Json

/-- What a JSON text stands for.  A number is a whole one times a power of ten. -/
inductive Data
  | null
  | bool (value : Bool)
  | number (whole exponent : Int)
  | string (text : String)
  | array (items : List Data)
  | object (members : List (String × Data))

def isBlank (c : Char) : Bool := c == ' ' || c == '\t' || c == '\n' || c == '\r'

def skip (chars : List Char) : List Char := chars.dropWhile isBlank

/-- What is behind a mark, and the blanks in front of the mark. -/
def behind? (mark : Char) (chars : List Char) : Option (List Char) :=
  match skip chars with
  | [] => none
  | c :: rest => if c = mark then some rest else none

/-! ### Strings -/

/-- Sixteen bits in four digits. -/
def unit? : List Char → Option (Nat × List Char)
  | a :: b :: c :: d :: rest => (Digits.read? 16 [a, b, c, d]).map (·, rest)
  | _ => none

def escaped? : List Char → Option (Nat × List Char)
  | '\\' :: 'u' :: rest => unit? rest
  | _ => none

def pair? (high low : Nat) : Option Char :=
  if high < 0xdc00 ∧ 0xdc00 ≤ low ∧ low < 0xe000 then
    some (Char.ofNat (0x10000 + (high - 0xd800) * 0x400 + (low - 0xdc00)))
  else none

/-- A character by its code.  A unit that is half a character needs the other half. -/
def coded? (chars : List Char) : Option (Char × List Char) := do
  let (unit, rest) ← unit? chars
  if unit < 0xd800 ∨ 0xe000 ≤ unit then return (Char.ofNat unit, rest)
  let (low, rest) ← escaped? rest
  return (← pair? unit low, rest)

def named? : Char → Option Char
  | '"' => some '"'
  | '\\' => some '\\'
  | '/' => some '/'
  | 'b' => some '\x08'
  | 'f' => some '\x0c'
  | 'n' => some '\n'
  | 'r' => some '\r'
  | 't' => some '\t'
  | _ => none

def char? : List Char → Option (Char × List Char)
  | [] => none
  | c :: rest =>
      if c = '\\' then
        match rest with
        | [] => none
        | 'u' :: rest => coded? rest
        | d :: rest => (named? d).map (·, rest)
      else if c.toNat < 0x20 then none
      else some (c, rest)

theorem unit?_length {chars rest : List Char} {n : Nat} (read : unit? chars = some (n, rest)) :
    rest.length < chars.length := by
  unfold unit? at read
  split at read
  · obtain ⟨m, -, same⟩ := Option.map_eq_some_iff.mp read
    obtain ⟨-, rfl⟩ := Prod.mk.inj same
    simp only [List.length_cons]
    omega
  · cases read

theorem escaped?_length {chars rest : List Char} {n : Nat}
    (read : escaped? chars = some (n, rest)) : rest.length < chars.length := by
  unfold escaped? at read
  split at read
  · have shorter := unit?_length read
    simp only [List.length_cons]
    omega
  · cases read

theorem coded?_length {chars rest : List Char} {c : Char} (read : coded? chars = some (c, rest)) :
    rest.length < chars.length := by
  obtain ⟨⟨unit, after⟩, first, read⟩ := Option.bind_eq_some_iff.mp read
  have shorter := unit?_length first
  dsimp only at read
  by_cases single : unit < 0xd800 ∨ 0xe000 ≤ unit
  · rw [if_pos single] at read
    cases read
    exact shorter
  · rw [if_neg single] at read
    obtain ⟨⟨low, last⟩, second, read⟩ := Option.bind_eq_some_iff.mp read
    have shorter' := escaped?_length second
    dsimp only at read
    obtain ⟨d, -, read⟩ := Option.bind_eq_some_iff.mp read
    cases read
    omega

theorem char?_length {chars rest : List Char} {c : Char} (read : char? chars = some (c, rest)) :
    rest.length < chars.length := by
  unfold char? at read
  split at read
  next => cases read
  next d after =>
    split at read
    · split at read
      next => cases read
      next after =>
        have shorter := coded?_length read
        simp only [List.length_cons]
        omega
      next =>
        obtain ⟨e, -, same⟩ := Option.map_eq_some_iff.mp read
        cases same
        simp only [List.length_cons]
        omega
    · split at read
      · cases read
      · cases read
        exact Nat.lt_succ_self _

/-- The characters of a string, up to the quote that closes it. -/
def content? (chars : List Char) : Option (List Char × List Char) :=
  if chars.head? = some '"' then some ([], chars.tail)
  else
    match _ : char? chars with
    | none => none
    | some (c, rest) => (content? rest).map fun (more, rest) => (c :: more, rest)
termination_by chars.length
decreasing_by exact char?_length ‹_›

def string? (chars : List Char) : Option (String × List Char) := do
  let (content, rest) ← content? (← behind? '"' chars)
  return (String.ofList content, rest)

/-! ### Numbers -/

def digits? (chars : List Char) : Option (List Char × List Char) :=
  match chars.takeWhile Char.isDigit with
  | [] => none
  | digits => some (digits, chars.dropWhile Char.isDigit)

/-- A zero in front stands alone. -/
def whole? : List Char → Option (List Char × List Char)
  | '0' :: rest => some (['0'], rest)
  | chars => digits? chars

def places? : List Char → Option (List Char × List Char)
  | '.' :: rest => digits? rest
  | chars => some ([], chars)

def signed? : List Char → Option (Int × List Char)
  | '-' :: rest => (digits? rest).map fun (digits, rest) => (-Nat.ofDigitChars 10 digits 0, rest)
  | '+' :: rest => (digits? rest).map fun (digits, rest) => (Nat.ofDigitChars 10 digits 0, rest)
  | chars => (digits? chars).map fun (digits, rest) => (Nat.ofDigitChars 10 digits 0, rest)

def exponent? : List Char → Option (Int × List Char)
  | 'e' :: rest => signed? rest
  | 'E' :: rest => signed? rest
  | chars => some (0, chars)

def positive? (chars : List Char) : Option (Nat × Int × List Char) := do
  let (whole, rest) ← whole? chars
  let (places, rest) ← places? rest
  let (exponent, rest) ← exponent? rest
  return (Nat.ofDigitChars 10 (whole ++ places) 0, exponent - places.length, rest)

def number? : List Char → Option (Data × List Char)
  | '-' :: rest => (positive? rest).map fun (n, exponent, rest) => (.number (-n) exponent, rest)
  | chars => (positive? chars).map fun (n, exponent, rest) => (.number n exponent, rest)

/-! ### Values -/

def word? : List Char → Option (Data × List Char)
  | 'n' :: 'u' :: 'l' :: 'l' :: rest => some (.null, rest)
  | 't' :: 'r' :: 'u' :: 'e' :: rest => some (.bool true, rest)
  | 'f' :: 'a' :: 'l' :: 's' :: 'e' :: rest => some (.bool false, rest)
  | _ => none

mutual

/-- The fuel is for what is nested and for what comes one after another. -/
def value? : Nat → List Char → Option (Data × List Char)
  | 0, _ => none
  | fuel + 1, chars =>
      match skip chars with
      | [] => none
      | c :: rest =>
          if c = '"' then do
            let (content, rest) ← content? rest
            return (.string (String.ofList content), rest)
          else if c = '[' then
            match behind? ']' rest with
            | some rest => some (.array [], rest)
            | none => (items? fuel rest).map fun (items, rest) => (.array items, rest)
          else if c = '\x7b' then
            match behind? '\x7d' rest with
            | some rest => some (.object [], rest)
            | none => (members? fuel rest).map fun (members, rest) => (.object members, rest)
          else (number? (c :: rest)).or (word? (c :: rest))

def items? : Nat → List Char → Option (List Data × List Char)
  | 0, _ => none
  | fuel + 1, chars => do
      let (item, rest) ← value? fuel chars
      match behind? ',' rest with
      | some rest => do
          let (more, rest) ← items? fuel rest
          return (item :: more, rest)
      | none => return ([item], ← behind? ']' rest)

def members? : Nat → List Char → Option (List (String × Data) × List Char)
  | 0, _ => none
  | fuel + 1, chars => do
      let (key, rest) ← string? chars
      let (data, rest) ← value? fuel (← behind? ':' rest)
      match behind? ',' rest with
      | some rest => do
          let (more, rest) ← members? fuel rest
          return ((key, data) :: more, rest)
      | none => return ([(key, data)], ← behind? '\x7d' rest)

end

/-- What a whole text stands for, if it is JSON. -/
def read? (text : String) : Option Data := do
  let (data, rest) ← value? (text.length + 1) text.toList
  if (skip rest).isEmpty then return data else none

end Rerun.Json
