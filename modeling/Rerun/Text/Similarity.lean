import Rerun.Float.Arithmetic

/-! How alike two words are: the mean of the share of each word that has a partner in
the other and the share of the partners that stand in the same order.  Partners are equal
letters not too far apart. -/

namespace Rerun.Similarity

/-- Letters of a word, each with whether it has a partner. -/
abbrev Marked := List (Char × Bool)

/-- Marks the first free letter `c` at a place from `low` to before `high`; places count
from `place`. -/
def claim (c : Char) (low high : Nat) : Nat → Marked → Option Marked
  | _, [] => none
  | place, (d, taken) :: rest =>
      if low ≤ place && place < high && !taken && d == c then some ((d, true) :: rest)
      else (claim c low high (place + 1) rest).map ((d, taken) :: ·)

/-- The letters that find a partner, and the other word after that. -/
def partners (reach : Nat) : Nat → List Char → Marked → List Char × Marked
  | _, [], other => ([], other)
  | place, c :: rest, other =>
      match claim c (place - reach) (place + reach + 1) 0 other with
      | none => partners reach (place + 1) rest other
      | some other =>
          let (found, other) := partners reach (place + 1) rest other
          (c :: found, other)

/-- A quotient as a number of double precision. -/
def share (n m : Nat) : Nat :=
  FloatFormat.double.div (FloatFormat.double.ofInt n) (FloatFormat.double.ofInt m)

def mean (a b c : Nat) : Nat :=
  let d := FloatFormat.double
  d.div (d.add (d.add a b) c) (d.ofInt 3)

/-- The degree, as bits of double precision; bits of positive numbers have their order. -/
def degree (a b : String) : Nat :=
  let a := a.toList
  let b := b.toList
  let reach := max a.length b.length / 2 - 1
  let (found, other) := partners reach 0 a (b.map (·, false))
  let answering := (other.filter (·.2)).map (·.1)
  let moved := ((found.zip answering).countP fun (c, d) => c != d) / 2
  let count := found.length
  if count = 0 then if a.isEmpty && b.isEmpty then FloatFormat.double.ofInt 1 else 0
  else mean (share count a.length) (share count b.length) (share (count - moved) count)

/-- Words are alike from above seven tenths on. -/
def threshold : Nat := share 7 10

/-- The words that are like another one, the most alike last. -/
def alike (word : String) (candidates : List String) : List String :=
  let rated := (candidates.map fun c => (degree word c, c)).filter (threshold < ·.1)
  (rated.mergeSort fun a b => a.1 ≤ b.1).map (·.2)

end Rerun.Similarity
