import Rerun.Text.Position

/-! Steps over the characters of a document.  A step that fails says where and
what it expected; unless its fault is fatal, an alternative may be tried. -/

namespace Rerun.Toml

structure Fault where
  offset : Nat
  /-- The innermost construct that was being read. -/
  label : Option String := none
  expected : List String := []
  cause : Option String := none
  fatal : Bool := false
deriving DecidableEq, Repr

structure Cursor where
  rest : List Char
  offset : Nat

abbrev Scan := StateT Cursor (Except Fault)

/-- Bytes from `start` up to `stop`. -/
structure Span where
  start : Nat
  stop : Nat
deriving DecidableEq, Repr

namespace Scan

variable {α β : Type}

def fail : Scan α := fun c => .error { offset := c.offset }

/-- Fails for a stated cause. -/
def refuse (cause : String) : Scan α :=
  fun c => .error { offset := c.offset, cause := some cause }

def onFault (f : Fault → Fault) (p : Scan α) : Scan α :=
  fun c => (p c).mapError f

/-- No alternative is tried once this step has failed. -/
def commit (p : Scan α) : Scan α := p.onFault fun e => { e with fatal := true }

def labelled (label : String) (p : Scan α) : Scan α :=
  p.onFault fun e => { e with label := e.label <|> some label }

def expecting (what : String) (p : Scan α) : Scan α :=
  p.onFault fun e => { e with expected := e.expected ++ [what] }

def orElse (p q : Scan α) : Scan α := fun c =>
  match p c with
  | .error e => if e.fatal then .error e else q c
  | found => found

def optional (p : Scan α) : Scan (Option α) := fun c =>
  match p c with
  | .ok (a, c) => .ok (some a, c)
  | .error e => if e.fatal then .error e else .ok (none, c)

/-- Fails where it started if the result is refused. -/
def refine (p : Scan α) (f : α → Except String β) : Scan β := fun c =>
  match p c with
  | .error e => .error e
  | .ok (a, next) =>
      match f a with
      | .ok b => .ok (b, next)
      | .error cause => .error { offset := c.offset, cause := some cause }

/-- Fails where it started, for no stated cause, if the result is refused. -/
def filterMap (p : Scan α) (f : α → Option β) : Scan β := fun c =>
  match p c with
  | .error e => .error e
  | .ok (a, next) =>
      match f a with
      | some b => .ok (b, next)
      | none => .error { offset := c.offset }

def position : Scan Nat := fun c => .ok (c.offset, c)

def peek : Scan (Option Char) := fun c => .ok (c.rest.head?, c)

/-- The next two characters, if there are two. -/
def peekTwo : Scan (Option (Char × Char)) := fun c =>
  match c.rest with
  | a :: b :: _ => .ok (some (a, b), c)
  | _ => .ok (none, c)

def atEnd : Scan Bool := fun c => .ok (c.rest.isEmpty, c)

def satisfy (f : Char → Bool) : Scan Char := fun c =>
  match c.rest with
  | a :: rest =>
      if f a then .ok (a, ⟨rest, c.offset + a.utf8Size⟩) else .error { offset := c.offset }
  | [] => .error { offset := c.offset }

def any : Scan Char := satisfy fun _ => true

def char (a : Char) : Scan Char := satisfy (· == a)

/-- All of the text or nothing. -/
def literal (s : String) : Scan Unit := fun c =>
  let chars := s.toList
  if chars.isPrefixOf c.rest then
    .ok ((), ⟨c.rest.drop chars.length, c.offset + Position.byteSize chars⟩)
  else .error { offset := c.offset }

def takeWhile (f : Char → Bool) : Scan (List Char) := fun c =>
  let taken := c.rest.takeWhile f
  .ok (taken, ⟨c.rest.drop taken.length, c.offset + Position.byteSize taken⟩)

/-- At least `least` and at most `most` characters. -/
def takeBetween (least most : Nat) (f : Char → Bool) : Scan (List Char) := fun c =>
  let taken := (c.rest.take most).takeWhile f
  if least ≤ taken.length then
    .ok (taken, ⟨c.rest.drop taken.length, c.offset + Position.byteSize taken⟩)
  else .error { offset := c.offset }

def takeWhile1 (f : Char → Bool) : Scan (List Char) :=
  fun c => takeBetween 1 c.rest.length f c

/-- What a step succeeds on, without taking it. -/
def lookahead (p : Scan α) : Scan α := fun c =>
  match p c with
  | .ok (a, _) => .ok (a, c)
  | .error e => .error e

/-- The characters a step takes. -/
def taken (p : Scan α) : Scan (List Char) := fun c =>
  match p c with
  | .ok (_, next) => .ok (c.rest.take (c.rest.length - next.rest.length), next)
  | .error e => .error e

def spanned (p : Scan α) : Scan (α × Span) := do
  let start ← position
  let a ← p
  return (a, ⟨start, ← position⟩)

def manyFrom (p : Scan α) : Nat → List α → Scan (List α)
  | 0, found => pure found.reverse
  | fuel + 1, found => do
      match ← optional p with
      | none => pure found.reverse
      | some a => manyFrom p fuel (a :: found)

/-- As often as the step succeeds; it must take something each time. -/
def many (p : Scan α) : Scan (List α) :=
  fun c => manyFrom p (c.rest.length + 1) [] c

/-- Items between separators; a separator without an item after it is not taken. -/
def separated (item : Scan α) (separator : Scan β) : Scan (List α) := do
  match ← optional item with
  | none => return []
  | some first => return first :: (← many (do let _ ← separator; item))

def separated1 (item : Scan α) (separator : Scan β) : Scan (List α) := do
  let first ← item
  return first :: (← many (do let _ ← separator; item))

end Scan

end Rerun.Toml
