import Rerun.Wasm.Text.Script
import Rerun.Wasm.Text.Token

/-! Steps over the tokens of a text.  A fault of the text is met when the token it
stands in is looked at. -/

namespace Rerun.Wasm.Text

abbrev Parse := StateT (List Token) (Except TextFault)

namespace Parse

variable {α : Type}

/-- The next token. -/
def head : Parse Token := fun tokens =>
  match tokens with
  | [] => .ok (⟨.finish, 0⟩, tokens)
  | ⟨.fault message, offset⟩ :: _ => .error ⟨offset, message⟩
  | t :: _ => .ok (t, tokens)

/-- The token after the next one. -/
def second : Parse TokenKind := fun tokens => do
  let _ ← head tokens
  match tokens with
  | _ :: ⟨.fault message, offset⟩ :: _ => .error ⟨offset, message⟩
  | _ :: t :: _ => .ok (t.kind, tokens)
  | _ => .ok (.finish, tokens)

/-- Looks past the next token. -/
def ahead (test : Parse α) : Parse α := fun tokens => do
  let (a, _) ← test (tokens.drop 1)
  return (a, tokens)

def skip : Parse Unit := fun tokens =>
  match tokens with
  | ⟨.finish, _⟩ :: _ => .ok ((), tokens)
  | _ :: rest => .ok ((), rest)
  | [] => .ok ((), [])

def here : Parse Nat := fun tokens =>
  match tokens with
  | t :: _ => .ok (t.offset, tokens)
  | [] => .ok (0, [])

def failAt (offset : Nat) (message : String) : Parse α := throw ⟨offset, message⟩

/-- Fails at the next token. -/
def fail (message : String) : Parse α := do failAt (← here) message

/-- Fails because the next token is none of those that were tried. -/
def unexpected (tried : List String) : Parse α :=
  match tried with
  | [] => fail "unexpected token"
  | [one] => fail s!"unexpected token, expected {one}"
  | [one, two] => fail s!"unexpected token, expected {one} or {two}"
  | many => fail ("unexpected token, expected one of: " ++ ", ".intercalate many)

def quoted (word : String) : String := "`" ++ word ++ "`"

def isOpening (k : TokenKind) : Bool := k matches .opening

def isClosing (k : TokenKind) : Bool := k matches .closing

/-- Whether nothing is left between the parentheses. -/
def atEnd : Parse Bool := do
  match (← head).kind with
  | .closing | .finish => return true
  | _ => return false

def atOpening : Parse Bool := return isOpening (← head).kind

/-- The keyword that is next. -/
def keyword? : Parse (Option String) := do
  match (← head).kind with
  | .keyword word => return some word
  | _ => return none

def atKeyword (word : String) : Parse Bool := return (← keyword?) == some word

/-- Whether the keyword comes after the next token. -/
def secondIsKeyword (word : String) : Parse Bool := do
  match ← second with
  | .keyword found => return found == word
  | _ => return false

def keyword (word : String) : Parse Unit := do
  if ← atKeyword word then skip else fail s!"expected keyword {quoted word}"

/-- Takes the keyword if it is next. -/
def tryKeyword (word : String) : Parse Bool := do
  if ← atKeyword word then
    skip
    return true
  else return false

def atAnnotation (name : String) : Parse Bool := do
  match (← head).kind with
  | .annotated found => return found == name
  | _ => return false

def parens (p : Parse α) : Parse α := do
  if isOpening (← head).kind then
    skip
    let a ← p
    if isClosing (← head).kind then
      skip
      return a
    else fail ("expected " ++ quoted ")")
  else fail ("expected " ++ quoted "(")

def collect (more : Parse Bool) (p : Parse α) : Nat → Parse (List α)
  | 0 => return []
  | fuel + 1 => do
      if ← more then
        let a ← p
        return a :: (← collect more p fuel)
      else return []

/-- Repeats a step, which takes at least one token, as long as the test holds. -/
def whilst (more : Parse Bool) (p : Parse α) : Parse (List α) := fun tokens =>
  collect more p (tokens.length + 1) tokens

/-- Repeats a step up to the closing parenthesis. -/
def untilEnd (p : Parse α) : Parse (List α) := whilst (return !(← atEnd)) p

/-- A step that is taken where the test holds. -/
def when? (test : Parse Bool) (p : Parse α) : Parse (Option α) := do
  if ← test then return some (← p) else return none

def bytes : Parse (List UInt8) := do
  match (← head).kind with
  | .string bytes => skip; return bytes
  | _ => fail "expected a string"

/-- A string that has to be text. -/
def text : Parse String := do
  let bytes ← bytes
  match String.fromUTF8? ⟨bytes.toArray⟩ with
  | some s => return s
  | none => fail "malformed UTF-8 encoding"

def name? : Parse (Option Name) := do
  let t ← head
  match t.kind with
  | .identifier (.ok name) => skip; return some ⟨name, t.offset⟩
  | .identifier (.error message) => failAt t.offset message
  | _ => return none

def isNameAnnotation (first second : TokenKind) : Bool :=
  match first, second with
  | .opening, .annotated "name" => true
  | _, _ => false

/-- A name annotation, if one is next. -/
def display? : Parse (Option String) := do
  if isOpening (← head).kind && isNameAnnotation .opening (← second) then
    some <$> parens (do skip; text)
  else return none

def naming : Parse Naming := do
  let id ← name?
  return ⟨id, ← display?⟩

def integer? : Parse (Option IntegerNumeral) := do
  match (← head).kind with
  | .integer n => return some n
  | _ => return none

def atInteger : Parse Bool := return (← integer?).isSome

def outOfRange (type : String) : String := s!"invalid {type} number: constant out of range"

/-- An integer that may be signed, as bits. -/
def signed (type : String) (width : Nat) : Parse Nat := do
  match ← integer? with
  | none => fail s!"expected a {type}"
  | some n =>
      match n.bits? width with
      | some bits => skip; return bits
      | none => fail (outOfRange type)

def unsigned (type : String) (width : Nat) : Parse Nat := do
  match ← integer? with
  | none => fail s!"expected a {type}"
  | some n =>
      match n.unsigned? width with
      | some value => skip; return value
      | none => fail (outOfRange type)

def u8 : Parse Nat := unsigned "u8" 8

def u32 : Parse Nat := unsigned "u32" 32

def u64 : Parse Nat := unsigned "u64" 64

def float (format : FloatFormat) : Parse Nat := do
  let numeral ←
    match (← head).kind with
    | .float n => pure n
    | .integer n => pure n.toFloat
    | _ => fail "expected a float"
  match numeral.bits? format with
  | some bits => skip; return bits
  | none => fail "invalid float value: constant out of range"

def atIndex : Parse Bool := do
  match (← head).kind with
  | .integer _ | .identifier _ => return true
  | _ => return false

def index : Parse Index := do
  match ← name? with
  | some name => return .name name
  | none =>
      let offset ← here
      if ← atInteger then return .number (← u32) offset
      else fail "unexpected token, expected an index or an identifier"

def index? : Parse (Option Index) := when? atIndex index

end Parse

end Rerun.Wasm.Text
