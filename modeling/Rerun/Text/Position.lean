/-! Places in a text.  An offset counts UTF-8 bytes, lines and columns count
from one, and a column counts characters. -/

namespace Rerun

structure Position where
  offset : Nat
  line : Nat
  column : Nat
deriving DecidableEq, Repr

namespace Position

def byteSize (chars : List Char) : Nat :=
  chars.foldr (fun c size => c.utf8Size + size) 0

/-- Whether byte `n` begins a character or ends the text. -/
def isBoundary : List Char → Nat → Bool
  | _, 0 => true
  | [], _ + 1 => false
  | c :: rest, n => c.utf8Size ≤ n && isBoundary rest (n - c.utf8Size)

/-- The nearest boundary at or before byte `n`, searched backwards. -/
def floor (chars : List Char) : Nat → Nat
  | 0 => 0
  | n + 1 => if isBoundary chars (n + 1) then n + 1 else floor chars n

def charsBefore : List Char → Nat → List Char
  | [], _ => []
  | c :: rest, n =>
      if c.utf8Size ≤ n then c :: charsBefore rest (n - c.utf8Size) else []

def charsFrom : List Char → Nat → List Char
  | [], _ => []
  | c :: rest, n =>
      if c.utf8Size ≤ n then charsFrom rest (n - c.utf8Size) else c :: rest

def lineAfter (before : List Char) : Nat :=
  before.count '\n' + 1

def columnAfter (before : List Char) : Nat :=
  (before.reverse.takeWhile (· != '\n')).length + 1

/-- An offset past the end is taken as the end, one inside a character as the
character's start. -/
def resolve (text : String) (offset : Nat) : Position :=
  let chars := text.toList
  let start := floor chars (min offset (byteSize chars))
  let before := charsBefore chars start
  ⟨start, lineAfter before, columnAfter before⟩

end Position

end Rerun
