import Rerun.Text.Position
import Rerun.Wasm.Text.Numeral
import Rerun.Wasm.Text.StringLiteral

/-! A text as tokens.  Blanks, comments and annotations nobody knows are left out.
A fault of the text stands in the list as its last token, so that it is met only by
who reads that far. -/

namespace Rerun.Wasm.Text

inductive TokenKind
  | opening
  | closing
  | keyword (word : String)
  /-- The name of an identifier, or why it is none. -/
  | identifier (name : Except String String)
  | string (bytes : List UInt8)
  | integer (n : IntegerNumeral)
  | float (n : FloatNumeral)
  /-- The name that an annotation begins with. -/
  | annotated (name : String)
  | reserved
  | finish
  | fault (message : String)

structure Token where
  kind : TokenKind
  offset : Nat

namespace Token

/-- Characters of words. -/
def isWordChar (c : Char) : Bool :=
  0x21 ≤ c.toNat && c.toNat ≤ 0x7e && !"\"(),;[]\x7b\x7d".toList.contains c

def isBlank (c : Char) : Bool := c = ' ' || c = '\n' || c = '\r' || c = '\t'

/-- Name of a word that begins with a mark, quoted or not. -/
def markedName (empty : String) (rest : List Char) : Except String String :=
  match rest with
  | [] => .error empty
  | '"' :: quoted =>
      match readLiteral .none 0 [] quoted with
      | .ok (bytes, [], _) =>
          match String.fromUTF8? ⟨bytes.toArray⟩ with
          | some "" => .error empty
          | some name => .ok name
          | none => .error "malformed UTF-8 encoding"
      | _ => .error empty
  | word => .ok (String.ofList word)

/-- Pieces of a run of word characters and strings. -/
structure Run where
  chars : List Char := []
  strings : List (List UInt8) := []
  rest : List Char
  offset : Nat

/-- The longest run of word characters and strings. -/
def run : Nat → Run → Except TextFault Run
  | 0, r => .ok r
  | fuel + 1, r =>
      match r.rest with
      | [] => .ok r
      | '"' :: rest => do
          let (bytes, after, offset) ← readLiteral .none (r.offset + 1) [] rest
          let taken := r.rest.take (r.rest.length - after.length)
          run fuel ⟨r.chars ++ taken, r.strings ++ [bytes], after, offset⟩
      | c :: rest =>
          if isWordChar c then
            let word := (c :: rest).takeWhile isWordChar
            run fuel ⟨r.chars ++ word, r.strings, (c :: rest).dropWhile isWordChar,
              r.offset + word.length⟩
          else .ok r

/-- What a run of word characters and strings is. -/
def ofRun (r : Run) : TokenKind :=
  match r.strings, r.chars with
  | [bytes], '"' :: _ => if r.chars.getLast? == some '"' then .string bytes else .reserved
  | [], chars =>
      match Numeral.ofWord? chars with
      | some (.inl n) => .integer n
      | some (.inr n) => .float n
      | none =>
          match chars with
          | '$' :: name => .identifier (markedName "empty identifier" name)
          | c :: _ =>
              if 'a' ≤ c && c ≤ 'z' then .keyword (String.ofList chars) else .reserved
          | [] => .reserved
  | [_], '$' :: '"' :: rest =>
      if rest.getLast? == some '"' then
        .identifier (markedName "empty identifier" ('"' :: rest))
      else .reserved
  | _, _ => .reserved

/-- The rest of a text after a block comment of which `depth` levels are open. -/
def afterBlockComment : Nat → Nat → List Char → Option (List Char)
  | 0, _, rest => some rest
  | depth + 1, fuel, chars =>
      match fuel, chars with
      | fuel + 1, '(' :: ';' :: rest => afterBlockComment (depth + 2) fuel rest
      | fuel + 1, ';' :: ')' :: rest => afterBlockComment depth fuel rest
      | fuel + 1, _ :: rest => afterBlockComment (depth + 1) fuel rest
      | _, _ => none

def firstConfusing (offset : Nat) : List Char → Option TextFault
  | [] => none
  | c :: rest =>
      if isConfusing c then some ⟨offset, confusingMessage c⟩
      else firstConfusing (offset + c.utf8Size) rest

/-- A token with the text after it, or a comment or blanks. -/
inductive Step
  | token (kind : TokenKind) (rest : List Char) (offset : Nat)
  | skip (rest : List Char) (offset : Nat)
  | fault (fault : TextFault)

def skipComment (offset : Nat) (comment rest : List Char) : Step :=
  match firstConfusing offset comment with
  | some fault => .fault fault
  | none => .skip rest (offset + Position.byteSize comment)

/-- The next token of a text that is not empty; `fuel` is at least its length. -/
def step (fuel offset : Nat) (chars : List Char) : Step :=
  match chars with
  | [] => .skip [] offset
  | '(' :: ';' :: rest =>
      match afterBlockComment 1 fuel rest with
      | none => .fault ⟨offset, "unterminated block comment"⟩
      | some after => skipComment offset (chars.take (chars.length - after.length)) after
  | ';' :: ';' :: _ =>
      let comment := chars.takeWhile fun c => c != '\n' && c != '\r'
      skipComment offset comment (chars.drop comment.length)
  | '(' :: rest => .token .opening rest (offset + 1)
  | ')' :: rest => .token .closing rest (offset + 1)
  | c :: rest =>
      if isBlank c then .skip rest (offset + 1)
      else if isWordChar c || c = '"' then
        match run fuel ⟨[], [], chars, offset⟩ with
        | .ok r => .token (ofRun r) r.rest r.offset
        | .error fault => .fault fault
      else if ";,[]\x7b\x7d".toList.contains c then .token .reserved rest (offset + 1)
      else .fault ⟨offset, s!"unexpected character '{spelled c}'"⟩

/-- The annotation that begins right here, with the run of its name. -/
def annotation? (fuel offset : Nat) (chars : List Char) :
    Except TextFault (Option (Except String String × Run)) :=
  match chars with
  | '@' :: _ => do
      let r ← run fuel ⟨[], [], chars, offset⟩
      return some (markedName "empty annotation id" (r.chars.drop 1), r)
  | _ => .ok none

/-- Annotations that are read. -/
def knownAnnotations : List String :=
  ["custom", "producers", "name", "dylink.0", "metadata.code.branch_hint"]

/-- The text after an annotation of which `depth` parentheses are open. -/
def afterAnnotation (start : Nat) :
    Nat → Nat → Nat → List Char → Except TextFault (List Char × Nat)
  | 0, _, _, _ => .error ⟨start, "unclosed annotation"⟩
  | fuel + 1, depth, offset, chars =>
      if chars.isEmpty then .error ⟨start, "unclosed annotation"⟩
      else
        match step fuel offset chars with
        | .fault fault => .error fault
        | .skip rest offset => afterAnnotation start fuel depth offset rest
        | .token .opening rest offset => afterAnnotation start fuel (depth + 1) offset rest
        | .token .closing rest offset =>
            if depth ≤ 1 then .ok (rest, offset)
            else afterAnnotation start fuel (depth - 1) offset rest
        | .token _ rest offset => afterAnnotation start fuel depth offset rest

/-- The tokens of the text from `offset` on; the last one is the end or a fault. -/
def scan : Nat → Nat → List Char → List Token
  | 0, offset, _ => [⟨.finish, offset⟩]
  | fuel + 1, offset, chars =>
      if chars.isEmpty then [⟨.finish, offset⟩]
      else
        match step fuel offset chars with
        | .fault fault => [⟨.fault fault.message, fault.offset⟩]
        | .skip rest offset => scan fuel offset rest
        | .token .opening rest next =>
            match annotation? fuel next rest with
            | .error fault => [⟨.fault fault.message, fault.offset⟩]
            | .ok none => ⟨.opening, offset⟩ :: scan fuel next rest
            | .ok (some (.error message, _)) => [⟨.fault message, next⟩]
            | .ok (some (.ok name, r)) =>
                if knownAnnotations.contains name then
                  ⟨.opening, offset⟩ :: ⟨.annotated name, next⟩ :: scan fuel r.offset r.rest
                else
                  match afterAnnotation next (fuel + 1) 1 next rest with
                  | .error fault => [⟨.fault fault.message, fault.offset⟩]
                  | .ok (rest, offset) => scan fuel offset rest
        | .token kind rest next => ⟨kind, offset⟩ :: scan fuel next rest

/-- The tokens of a text. -/
def ofText (text : String) : List Token :=
  let chars := text.toList
  scan (chars.length + 1) 0 chars

/-- Whether there is more in the text than blanks and comments. -/
def isMeaningful : Nat → Nat → List Char → Bool
  | 0, _, _ => false
  | fuel + 1, offset, chars =>
      if chars.isEmpty then false
      else
        match step fuel offset chars with
        | .skip rest offset => isMeaningful fuel offset rest
        | _ => true

def hasMeaning (text : String) : Bool :=
  let chars := text.toList
  isMeaningful (chars.length + 1) 0 chars

end Token

end Rerun.Wasm.Text
