import Rerun.Float.Format
import Rerun.Text.Digits

/-! Numbers as they are written, and the bits they stand for. -/

namespace Rerun.Wasm.Text

/-- A sign and a magnitude; the sign of a zero is kept. -/
structure IntegerNumeral where
  /-- Whether a sign is written. -/
  isSigned : Bool
  isNegative : Bool
  magnitude : Nat
deriving DecidableEq, Repr

inductive FloatNumeral
  | infinite (isNegative : Bool)
  | nan (isNegative : Bool) (payload : Option Nat)
  /-- `digits * radix ^ -places`, times a power of two in base sixteen and of ten in
  base ten. -/
  | finite (isNegative isHex : Bool) (digits places : Nat) (exponent : Int)
deriving DecidableEq, Repr

namespace IntegerNumeral

/-- The value in two's complement, where it fits as a signed or an unsigned number. -/
def bits? (width : Nat) (n : IntegerNumeral) : Option Nat :=
  if n.isNegative then
    if n.magnitude ≤ Nat.pow 2 (width - 1) then some ((Nat.pow 2 width - n.magnitude) % Nat.pow 2 width) else none
  else if n.magnitude < Nat.pow 2 width then some n.magnitude else none

/-- A number without a minus sign that fits. -/
def unsigned? (width : Nat) (n : IntegerNumeral) : Option Nat :=
  if n.isNegative || Nat.pow 2 width ≤ n.magnitude then none else some n.magnitude

def toFloat (n : IntegerNumeral) : FloatNumeral :=
  .finite n.isNegative false n.magnitude 0 0

end IntegerNumeral

namespace FloatNumeral

/-- Beyond this power no digits that fit in a text bring a number back into a format. -/
def exponentBound : Int := 20000

/-- Numerator and denominator; none where the value is too large for any format. -/
def quotient? (isHex : Bool) (digits places : Nat) (exponent : Int) : Option (Nat × Nat) :=
  let base : Nat := if isHex then 2 else 10
  let exponent := exponent - (if isHex then 4 * places else places)
  if digits = 0 then some (0, 1)
  else if exponentBound < exponent then none
  else if exponent + (Nat.log2 digits + 1 : Nat) < -exponentBound then some (0, 1)
  else some (digits * Nat.pow base exponent.toNat, Nat.pow base (-exponent).toNat)

/-- The bits nearest to the numeral; none where it is out of the format's range. -/
def bits? (format : FloatFormat) : FloatNumeral → Option Nat
  | infinite isNegative => some (format.withSign isNegative format.infinity)
  | nan isNegative none => some (format.withSign isNegative format.canonicalNaN)
  | nan isNegative (some payload) =>
      if 0 < payload ∧ payload < Nat.pow 2 format.fractionBits then
        some (format.withSign isNegative (format.infinity + payload))
      else none
  | finite isNegative isHex digits places exponent =>
      match quotient? isHex digits places exponent with
      | none => none
      | some (num, den) =>
          let bits := format.round isNegative num den
          if format.isInfinite bits then none else some bits

end FloatNumeral

namespace Numeral

/-- A run of digits with single underscores between them: the digits and the rest. -/
def digitRun (isDigit : Char → Bool) : List Char → Option (List Char × List Char)
  | [] => none
  | [c] => if isDigit c then some ([c], []) else none
  | c :: '_' :: rest =>
      if isDigit c then (digitRun isDigit rest).map fun (more, rest) => (c :: more, rest)
      else none
  | c :: d :: rest =>
      if !isDigit c then none
      else if isDigit d then
        (digitRun isDigit (d :: rest)).map fun (more, rest) => (c :: more, rest)
      else some ([c], d :: rest)

def valueOf (base : Nat) (digits : List Char) : Nat := (Digits.read? base digits).getD 0

/-- An exponent part that takes up all that is left. -/
def exponent? (isHex : Bool) : List Char → Option Int
  | [] => some 0
  | mark :: rest =>
      if mark.toLower != (if isHex then 'p' else 'e') then none
      else
        let (isNegative, rest) :=
          match rest with
          | '-' :: rest => (true, rest)
          | '+' :: rest => (false, rest)
          | rest => (false, rest)
        match digitRun Digits.isDecimal rest with
        | some (digits, []) =>
            let n : Int := valueOf 10 digits
            some (if isNegative then -n else n)
        | _ => none

/-- A number without its sign. -/
def unsigned? (isSigned isNegative : Bool) (chars : List Char) :
    Option (IntegerNumeral ⊕ FloatNumeral) :=
  let (isHex, body) :=
    match chars with
    | '0' :: 'x' :: rest => (true, rest)
    | _ => (false, chars)
  let isDigit := if isHex then Digits.isHex else Digits.isDecimal
  let base := if isHex then 16 else 10
  match digitRun isDigit body with
  | none => none
  | some (whole, []) => some (.inl ⟨isSigned, isNegative, valueOf base whole⟩)
  | some (whole, '.' :: rest) =>
      match rest with
      | d :: _ =>
          if isDigit d then
            match digitRun isDigit rest with
            | none => none
            | some (places, rest) =>
                (exponent? isHex rest).map fun e =>
                  .inr (.finite isNegative isHex (valueOf base (whole ++ places)) places.length e)
          else
            (exponent? isHex rest).map fun e =>
              .inr (.finite isNegative isHex (valueOf base whole) 0 e)
      | [] => some (.inr (.finite isNegative isHex (valueOf base whole) 0 0))
  | some (whole, rest) =>
      (exponent? isHex rest).map fun e =>
        .inr (.finite isNegative isHex (valueOf base whole) 0 e)

/-- The number that a word is, if it is one. -/
def ofWord? (word : List Char) : Option (IntegerNumeral ⊕ FloatNumeral) :=
  let (isSigned, isNegative, body) :=
    match word with
    | '+' :: rest => (true, false, rest)
    | '-' :: rest => (true, true, rest)
    | rest => (false, false, rest)
  match body with
  | ['i', 'n', 'f'] => some (.inr (.infinite isNegative))
  | ['n', 'a', 'n'] => some (.inr (.nan isNegative none))
  | 'n' :: 'a' :: 'n' :: ':' :: '0' :: 'x' :: rest =>
      match digitRun Digits.isHex rest with
      | some (digits, []) => some (.inr (.nan isNegative (some (valueOf 16 digits))))
      | _ => none
  | _ => unsigned? isSigned isNegative body

end Numeral

end Rerun.Wasm.Text
