import Rerun.Text.Position

/-! Lines of a text that keep their terminators. -/

namespace Rerun

structure Line where
  /-- Bytes before the line. -/
  start : Nat
  chars : List Char
deriving DecidableEq, Repr

namespace Line

def isTerminator (c : Char) : Bool :=
  c == '\n' || c == '\r' || c == '\x0b' || c == '\x0c' ||
    c.toNat == 0x85 || c.toNat == 0x2028 || c.toNat == 0x2029

/-- Pieces that each end with their terminator, the last perhaps without one.
A carriage return and a line feed together end one line. -/
def pieces : List Char → List (List Char)
  | [] => []
  | '\r' :: '\n' :: rest => ['\r', '\n'] :: pieces rest
  | c :: rest =>
      if isTerminator c then [c] :: pieces rest
      else
        match pieces rest with
        | [] => [[c]]
        | piece :: more => (c :: piece) :: more

def number (start : Nat) : List (List Char) → List Line
  | [] => []
  | piece :: more =>
      ⟨start, piece⟩ :: number (start + Position.byteSize piece) more

/-- An empty text has one empty line. -/
def ofChars (chars : List Char) : List Line :=
  match pieces chars with
  | [] => [⟨0, []⟩]
  | found => number 0 found

/-- Zero-based index of the last line that starts at or before the offset, with
the line. -/
def at? (lines : List Line) (offset : Nat) : Option (Nat × Line) :=
  (lines.zipIdx.takeWhile fun (line, _) => line.start ≤ offset).getLast?.map
    fun (line, index) => (index, line)

end Line

end Rerun
