import Rerun.Text.Digits
import Rerun.Text.Escaped

/-! String literals, read one character at a time. -/

namespace Rerun.Wasm.Text

/-- A failure and the byte offset it is reported at. -/
structure TextFault where
  offset : Nat
  message : String
deriving DecidableEq, Repr

/-- Characters that change the direction of the text around them. -/
def isConfusing (c : Char) : Bool :=
  (0x202a ≤ c.toNat && c.toNat ≤ 0x202e && c.toNat != 0x202c)
    || (0x2066 ≤ c.toNat && c.toNat ≤ 0x2069) || c.toNat == 0x206c

/-- How a message spells a character. -/
def spelled (c : Char) : String :=
  match c with
  | '\t' => "\\t"
  | '\r' => "\\r"
  | '\n' => "\\n"
  | '\'' => "\\'"
  | '\\' => "\\\\"
  | c =>
      if 0x20 ≤ c.toNat && c.toNat ≤ 0x7e then String.singleton c
      else String.ofList (Escaped.byCode c)

def confusingMessage (c : Char) : String :=
  s!"likely-confusing unicode character found '{String.ofList (Escaped.char c)}'"

def endOfFile : String := "unexpected end-of-file"

/-- Where a reader stands inside a literal. -/
inductive Escape
  | none
  | slash
  | hex (high : Nat)
  | unicode
  | opened
  | digits (value : Nat) (lastIsUnderscore : Bool)
deriving DecidableEq, Repr

/-- What a character does to a literal. -/
inductive LiteralStep
  | next (state : Escape) (bytes : List UInt8)
  | close
  | fault (message : String)
  /-- The fault is that of the character before. -/
  | faultBefore (message : String)

namespace Escape

def expectedBrace (wanted found : Char) : LiteralStep :=
  .fault s!"expected '{spelled wanted}' but found '{spelled found}'"

def isScalar (n : Nat) : Bool := n < 0xd800 || (0xdfff < n && n < 0x110000)

/-- Why no code point ends here. -/
def faultOfDigits? (value : Nat) (lastIsUnderscore : Bool) : Option String :=
  if lastIsUnderscore then some "bare underscore in numeric literal"
  else if isScalar value then Option.none
  else some s!"invalid unicode scalar value 0x{Digits.hex value}"

def afterSlash (c : Char) : LiteralStep :=
  match c with
  | '"' => .next .none [0x22]
  | '\'' => .next .none [0x27]
  | 't' => .next .none [9]
  | 'n' => .next .none [10]
  | 'r' => .next .none [13]
  | '\\' => .next .none [0x5c]
  | 'u' => .next .unicode []
  | c =>
      match Digits.valueOf? c with
      | some high => .next (.hex high) []
      | Option.none => .fault s!"invalid string escape '{spelled c}'"

def invalidDigit (c : Char) : LiteralStep :=
  .fault s!"invalid hex digit '{spelled c}'"

def step (state : Escape) (c : Char) : LiteralStep :=
  match state with
  | .none =>
      if c = '"' then .close
      else if c = '\\' then .next .slash []
      else if c.toNat < 0x20 || c.toNat = 0x7f then
        .fault s!"invalid character in string '{spelled c}'"
      else if isConfusing c then .fault (confusingMessage c)
      else .next .none (String.singleton c).toUTF8.toList
  | .slash => afterSlash c
  | .hex high =>
      match Digits.valueOf? c with
      | some low => .next .none [(high * 16 + low).toUInt8]
      | Option.none => invalidDigit c
  | .unicode => if c = '\x7b' then .next .opened [] else expectedBrace '\x7b' c
  | .opened =>
      match Digits.valueOf? c with
      | some d => .next (.digits d false) []
      | Option.none => invalidDigit c
  | .digits value lastIsUnderscore =>
      if c = '_' then .next (.digits value true) []
      else
        match Digits.valueOf? c with
        | some d =>
            if value * 16 + d < Nat.pow 2 32 then .next (.digits (value * 16 + d) false) []
            else .fault "number is too big to parse"
        | Option.none =>
            match faultOfDigits? value lastIsUnderscore with
            | some message => .faultBefore message
            | Option.none =>
                if c = '\x7d' then
                  .next .none (String.singleton (Char.ofNat value)).toUTF8.toList
                else expectedBrace '\x7d' c

end Escape

/-- The literal that begins after an opening quote at `offset`: its bytes, the rest
of the text and the rest's offset. -/
def readLiteral (state : Escape) (offset : Nat) (bytes : List UInt8) :
    List Char → Except TextFault (List UInt8 × List Char × Nat)
  | [] =>
      match state with
      | .digits value lastIsUnderscore =>
          match Escape.faultOfDigits? value lastIsUnderscore with
          | some message => .error ⟨offset - 1, message⟩
          | none => .error ⟨offset, endOfFile⟩
      | _ => .error ⟨offset, endOfFile⟩
  | c :: rest =>
      match state.step c with
      | .next state more =>
          readLiteral state (offset + c.utf8Size) (more.reverse ++ bytes) rest
      | .close => .ok (bytes.reverse, rest, offset + 1)
      | .fault message => .error ⟨offset, message⟩
      | .faultBefore message => .error ⟨offset - 1, message⟩

end Rerun.Wasm.Text
