import Rerun.Float.Format
import Rerun.Text.Digits
import Rerun.Toml.Scanner

/-! Strings, numbers and dates. -/

namespace Rerun.Toml

open Scan

def isBlank (c : Char) : Bool := c == ' ' || c == '\t'

def isNonAscii (c : Char) : Bool := 0x80 ≤ c.toNat

def isBasicChar (c : Char) : Bool :=
  isBlank c || (0x21 ≤ c.toNat && c.toNat ≤ 0x7e && c != '"' && c != '\\') || isNonAscii c

def isLiteralChar (c : Char) : Bool :=
  isBlank c || (0x21 ≤ c.toNat && c.toNat ≤ 0x7e && c != '\'') || isNonAscii c

def blanks : Scan Unit := do let _ ← takeWhile isBlank

def newline : Scan Unit := orElse (literal "\n") (literal "\r\n")

/-! Strings -/

def hexEscape (count : Nat) : Scan Char :=
  refine
    (filterMap (takeBetween 0 count Digits.isHex) fun digits =>
      if digits.length = count then Digits.read? 16 digits else none)
    fun code =>
      if code < 0xd800 ∨ (0xdfff < code ∧ code < 0x110000) then .ok (Char.ofNat code)
      else .error "value is out of range"

def escapeKinds : List String :=
  ["`b`", "`f`", "`n`", "`r`", "`t`", "`u`", "`U`", "`\\`", "`\"`"]

def escapeKind : Scan Char := do
  match ← any with
  | 'b' => return '\x08'
  | 'f' => return '\x0c'
  | 'n' => return '\n'
  | 'r' => return '\r'
  | 't' => return '\t'
  | 'u' => labelled "unicode 4-digit hex code" (commit (hexEscape 4))
  | 'U' => labelled "unicode 8-digit hex code" (commit (hexEscape 8))
  | '\\' => return '\\'
  | '"' => return '"'
  | _ =>
      onFault (fun e => { e with expected := e.expected ++ escapeKinds })
        (labelled "escape sequence" (commit fail))

def escaped : Scan Char := do
  let _ ← char '\\'
  escapeKind

def basicPiece : Scan (List Char) :=
  orElse (takeWhile1 isBasicChar) (do return [← escaped])

def basicString : Scan String := do
  let _ ← char '"'
  let pieces ← many basicPiece
  let _ ← labelled "basic string" (commit (char '"'))
  return String.ofList pieces.flatten

/-- A backslash at the end of a line takes the line end and the blanks after it. -/
def continuedLine : Scan Unit := do
  let _ ← char '\\'
  blanks
  newline
  let _ ← many (orElse newline (do let _ ← takeWhile1 isBlank))

def longBasicPiece : Scan (List Char) :=
  orElse (takeWhile1 isBasicChar)
    (orElse (do continuedLine; return [])
      (orElse (do return [← escaped]) (do newline; return ['\n'])))

/-- One or two quotes, if what follows them is as stated. -/
def quotesBefore {α : Type} (quote : Char) (next : Scan α) : Scan (List Char) :=
  orElse
    (do let _ ← char quote; let _ ← char quote; let _ ← lookahead next; return [quote, quote])
    (do let _ ← char quote; let _ ← lookahead next; return [quote])

def longDelimiter (quote : Char) : Scan Unit :=
  literal (String.ofList [quote, quote, quote])

/-- Pieces with lone or paired quotes among them. -/
def longBody (quote : Char) (piece : Scan (List Char)) : Scan (List Char) := do
  let first ← many piece
  let more ← many do
    let quotes ← quotesBefore quote piece
    let pieces ← many piece
    return quotes ++ pieces.flatten
  let last ← optional (quotesBefore quote (longDelimiter quote))
  return first.flatten ++ more.flatten ++ last.getD []

def longBasicString : Scan String :=
  labelled "multiline basic string" do
    longDelimiter '"'
    let _ ← optional newline
    let body ← commit (longBody '"' longBasicPiece)
    commit (longDelimiter '"')
    return String.ofList body

def literalString : Scan String :=
  labelled "literal string" do
    let _ ← char '\''
    let body ← commit (takeWhile isLiteralChar)
    let _ ← commit (char '\'')
    return String.ofList body

def longLiteralPiece : Scan (List Char) :=
  orElse (do return [← satisfy isLiteralChar]) (do newline; return ['\n'])

def longLiteralString : Scan String :=
  labelled "multiline literal string" do
    longDelimiter '\''
    let _ ← optional newline
    let body ← commit (longBody '\'' longLiteralPiece)
    commit (longDelimiter '\'')
    return String.ofList body

def string : Scan String :=
  orElse longBasicString (orElse basicString (orElse longLiteralString literalString))

/-! Numbers -/

def withoutUnderscores (chars : List Char) : List Char := chars.filter (· != '_')

/-- More digits of a number; an underscore stands only between two digits. -/
def moreDigits (digit : Scan Char) : Scan Unit := do
  let _ ← many (orElse digit do
    let _ ← char '_'
    expecting "digit" (commit digit))

def decimalDigit : Scan Char := satisfy Digits.isDecimal

def decimalInteger : Scan (List Char) :=
  labelled "integer" <| taken do
    let _ ← optional (satisfy fun c => c == '+' || c == '-')
    orElse
      (do let _ ← satisfy fun c => '1' ≤ c && c ≤ '9'; moreDigits decimalDigit)
      (do let _ ← decimalDigit)

/-- Digits that may begin with zeros. -/
def paddedDigits : Scan (List Char) :=
  taken do let _ ← decimalDigit; moreDigits decimalDigit

def prefixedInteger (name mark : String) (isDigit : Char → Bool) : Scan (List Char) :=
  labelled name do
    literal mark
    commit (taken do let _ ← satisfy isDigit; moreDigits (satisfy isDigit))

def tooLarge : String := "number too large to fit in target type"

def tooSmall : String := "number too small to fit in target type"

def inRange (n : Int) : Except String Int :=
  if n < -(Nat.pow 2 63) then .error tooSmall
  else if Nat.pow 2 63 ≤ n then .error tooLarge
  else .ok n

def readDecimal (chars : List Char) : Except String Int :=
  let (negative, digits) :=
    match withoutUnderscores chars with
    | '-' :: rest => (true, rest)
    | '+' :: rest => (false, rest)
    | rest => (false, rest)
  let n := (Digits.read? 10 digits).getD 0
  inRange (if negative then -n else n)

def readBase (base : Nat) (chars : List Char) : Except String Int :=
  inRange ((Digits.read? base (withoutUnderscores chars)).getD 0)

def integer : Scan Int := do
  match ← peekTwo with
  | some ('0', 'x') =>
      commit (refine (prefixedInteger "hexadecimal integer" "0x" Digits.isHex) (readBase 16))
  | some ('0', 'o') =>
      commit (refine
        (prefixedInteger "octal integer" "0o" fun c => '0' ≤ c && c ≤ '7') (readBase 8))
  | some ('0', 'b') =>
      commit (refine
        (prefixedInteger "binary integer" "0b" fun c => c == '0' || c == '1') (readBase 2))
  | _ =>
      orFatal (refine decimalInteger readDecimal)
where
  /-- A number that was read but does not fit is past recall. -/
  orFatal (p : Scan Int) : Scan Int :=
    p.onFault fun e => { e with fatal := e.fatal || e.cause.isSome }

def exponentPart : Scan Unit := do
  let _ ← satisfy fun c => c == 'e' || c == 'E'
  let _ ← optional (satisfy fun c => c == '+' || c == '-')
  let _ ← commit paddedDigits

def fractionPart : Scan Unit := do
  let _ ← char '.'
  let _ ← expecting "digit" (commit paddedDigits)

/-- Bits of a decimal text of sign, whole part, fraction and exponent. -/
def readFloat (chars : List Char) : Nat :=
  let (negative, rest) :=
    match withoutUnderscores chars with
    | '-' :: rest => (true, rest)
    | '+' :: rest => (false, rest)
    | rest => (false, rest)
  let whole := rest.takeWhile Digits.isDecimal
  let rest := rest.drop whole.length
  let (fraction, rest) :=
    match rest with
    | '.' :: rest =>
        let fraction := rest.takeWhile Digits.isDecimal
        (fraction, rest.drop fraction.length)
    | rest => ([], rest)
  let (down, exponent) :=
    match rest with
    | _ :: '-' :: digits => (true, digits)
    | _ :: '+' :: digits => (false, digits)
    | _ :: digits => (false, digits)
    | [] => (false, [])
  let significand := (Digits.read? 10 (whole ++ fraction)).getD 0
  -- past these bounds the result is infinite or zero whatever the digits
  let size := min ((Digits.read? 10 exponent).getD 0) (400 + whole.length + fraction.length)
  let scale : Int := (if down then -(size : Int) else size) - fraction.length
  FloatFormat.double.round negative (significand * Nat.pow 10 scale.toNat) (Nat.pow 10 (-scale).toNat)

def plainFloat : Scan Nat := fun c =>
  let shape := taken do
    let _ ← decimalInteger
    orElse exponentPart (do fractionPart; let _ ← optional exponentPart)
  let bits := filterMap shape fun chars =>
    let bits := readFloat chars
    if bits = FloatFormat.double.infinity then none else some bits
  match shape c with
  | .error e => .error e
  | .ok _ => commit bits c

def specialFloat : Scan Nat := do
  let sign ← optional (satisfy fun c => c == '+' || c == '-')
  let negative := sign == some '-'
  orElse
    (do literal "inf"; return FloatFormat.double.withSign negative FloatFormat.double.infinity)
    (do literal "nan"; return FloatFormat.double.withSign negative FloatFormat.double.canonicalNaN)

def float : Scan Nat :=
  labelled "floating-point number" (orElse plainFloat specialFloat)

/-! Dates and times, of which only the shape is kept -/

def outOfRange : String := "value is out of range"

def digitsOf (count : Nat) : Scan Nat :=
  filterMap (takeBetween count count Digits.isDecimal) (Digits.read? 10)

def bounded (count low high : Nat) : Scan Nat :=
  refine (digitsOf count) fun n =>
    if low ≤ n ∧ n ≤ high then .ok n else .error outOfRange

def daysIn (year month : Nat) : Nat :=
  if month = 2 then
    if year % 4 = 0 ∧ (year % 100 ≠ 0 ∨ year % 400 = 0) then 29 else 28
  else if month = 4 ∨ month = 6 ∨ month = 9 ∨ month = 11 then 30
  else 31

def date : Scan Unit := do
  let year ← digitsOf 4
  let _ ← char '-'
  let month ← commit (bounded 2 1 12)
  let _ ← commit (char '-')
  let _ ← commit (refine (bounded 2 1 31) fun day =>
    if day ≤ daysIn year month then .ok day else .error outOfRange)

def time : Scan Unit := do
  let _ ← bounded 2 0 23
  let _ ← char ':'
  commit do
    let _ ← bounded 2 0 59
    let _ ← char ':'
    let _ ← bounded 2 0 60
    let _ ← optional (do let _ ← char '.'; let _ ← takeWhile1 Digits.isDecimal)

def timeOffset : Scan Unit :=
  labelled "time offset" <|
    orElse (do let _ ← satisfy fun c => c == 'Z' || c == 'z')
      (do
        let _ ← satisfy fun c => c == '+' || c == '-'
        commit do
          let _ ← bounded 2 0 23
          let _ ← char ':'
          let _ ← bounded 2 0 59)

def dateTime : Scan Unit :=
  orElse
    (labelled "date-time" do
      date
      let _ ← optional do
        let _ ← satisfy fun c => c == 'T' || c == 't' || c == ' '
        time
        let _ ← optional timeOffset)
    (labelled "time" time)

end Rerun.Toml
