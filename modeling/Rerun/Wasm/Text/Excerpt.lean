import Rerun.Text.Position
import Rerun.Wasm.Text.StringLiteral

/-! A fault of a text in several lines: the message, the place, and the line with a mark
below the column. -/

namespace Rerun.Wasm.Text

/-- A line without the carriage return at its end. -/
def trimmedLine (line : List Char) : List Char :=
  if line.getLast? = some '\r' then line.dropLast else line

/-- The characters of a line; a line feed ends it, and may do so after a carriage return. -/
def lineFrom (chars : List Char) : List Char :=
  let line := chars.takeWhile (· != '\n')
  if line.length < chars.length then trimmedLine line else line

/-- The text from the line with a number on, counted from zero. -/
def fromLine : Nat → List Char → List Char
  | 0, chars => chars
  | n + 1, chars => fromLine n ((chars.dropWhile (· != '\n')).drop 1)

/-- Bytes of the line before the offset. -/
def bytesBefore (source : String) (offset : Nat) : Nat :=
  let before := Position.charsBefore source.toList offset
  Position.byteSize (before.reverse.takeWhile (· != '\n'))

def blanks (n : Nat) : String := "".pushn ' ' n

def numbered (line : Nat) : String :=
  let digits := toString line
  blanks (4 - digits.length) ++ digits

def TextFault.excerpt (fault : TextFault) (source : String) : String :=
  let p := Position.resolve source fault.offset
  let column := bytesBefore source p.offset
  let line := String.ofList (lineFrom (fromLine (p.line - 1) source.toList))
  let margin := "\n      |"
  s!"{fault.message}\n     --> <anon>:{p.line}:{column + 1}{margin}\n"
    ++ s!" {numbered p.line} | {line}{margin} {blanks column}^"

end Rerun.Wasm.Text
