import Rerun.Toml.Node
import Rerun.Toml.Scalar

/-! Whole documents: keys, values, and the tables they fall into. -/

namespace Rerun.Toml

open Scan

def isBareKeyChar (c : Char) : Bool := c.isAlphanum || c == '-' || c == '_'

def depthLimit : Nat := 80

def depthExceeded : String := "recursion limit exceeded"

def simpleKey : Scan Key := do
  let (text, span) ← spanned do
    match ← peek with
    | some '"' => basicString
    | some '\'' => literalString
    | _ => return String.ofList (← takeWhile1 isBareKeyChar)
  return ⟨text, span⟩

/-- Keys between dots, at least one. -/
def dottedKey : Scan (List Key) :=
  refine
    (labelled "key" (separated1 (do blanks; let key ← simpleKey; blanks; return key) (char '.')))
    fun keys => if keys.length < depthLimit then .ok keys else .error depthExceeded

def equals : Scan Unit :=
  expecting "`=`" (expecting "`.`" do let _ ← char '=')

def comment : Scan Unit := do
  let _ ← char '#'
  let _ ← takeWhile fun c => isBlank c || (0x21 ≤ c.toNat && c.toNat ≤ 0x7e) || isNonAscii c

/-- The end of a line or of the document. -/
def lineEnd : Scan Unit := do
  if ← atEnd then return
  newline

def trailing : Scan Unit :=
  expecting "`#`" (expecting "newline" do
    blanks
    let _ ← optional comment
    lineEnd)

/-- Blanks, comments and line ends between the items of an array. -/
def filler : Scan Unit := do
  let _ ← many (orElse (do let _ ← takeWhile1 isBlank)
    (orElse newline (do comment; newline)))

def quoted {α : Type} (p : Scan α) : Scan α :=
  expecting "`'`" (expecting "`\"`" (labelled "string" p))

def word {α : Type} (text : String) (value : α) : Scan α :=
  quoted (commit do literal text; return value)

/-- The dotted keys of an inline table, each with its value. -/
def inlineEntries (pairs : List (List Key × Node)) : Except String Entries :=
  (pairs.foldlM (fun entries (path, node) =>
    Entries.insertAt true {} none node [] path entries) []).mapError Conflict.message

/-- A value; `depth` is how many more arrays and inline tables may be opened. -/
def value (depth : Nat) : Scan Node := do
  match ← peek with
  | none => fail
  | some '"' | some '\'' => do
      let (text, span) ← spanned string
      return .string text span
  | some '[' =>
      match depth with
      | 0 => commit (refuse depthExceeded)
      | depth + 1 => do
          let (size, span) ← spanned do
            let _ ← char '['
            let size ← commit do
              if (← peek) == some ']' then return 0
              let items ← separated (do filler; let _ ← value depth; filler) (char ',')
              if !items.isEmpty then let _ ← optional (char ',')
              filler
              return items.length
            let _ ← expecting "`]`" (labelled "array" (commit (char ']')))
            return size
          return .array size span
  | some '\x7b' =>
      match depth with
      | 0 => commit (refuse depthExceeded)
      | depth + 1 => do
          let (entries, span) ← spanned do
            let _ ← char '\x7b'
            let entry : Scan (List Key × Node) := do
              let key ← dottedKey
              commit do
                equals
                blanks
                let node ← value depth
                blanks
                return (key, node)
            let entries ← commit (refine
              (do let pairs ← separated entry (char ','); blanks; return pairs) inlineEntries)
            let _ ← expecting "`\x7d`" (labelled "inline table" (commit (char '\x7d')))
            return entries
          return .inlineTable entries {} (some span)
  | some '_' => expecting "leading digit" do
      let (n, span) ← spanned integer
      return .integer n span
  | some '.' => expecting "leading digit" do
      let (bits, span) ← spanned float
      return .float bits span
  | some 't' => do
      let (b, span) ← spanned (word "true" true)
      return .boolean b span
  | some 'f' => do
      let (b, span) ← spanned (word "false" false)
      return .boolean b span
  | some 'i' => do
      let (bits, span) ← spanned (word "inf" FloatFormat.double.infinity)
      return .float bits span
  | some 'n' => do
      let (bits, span) ← spanned (word "nan" FloatFormat.double.canonicalNaN)
      return .float bits span
  | some c =>
      if c == '+' || c == '-' || Digits.isDecimal c then
        orElse (do let (_, span) ← spanned dateTime; return .datetime span)
          (orElse (do let (bits, span) ← spanned float; return .float bits span)
            (do let (n, span) ← spanned integer; return .integer n span))
      else quoted fail
termination_by depth

/-- The document read so far, and the table that entries go to. -/
structure Progress where
  root : Entries := []
  current : Entries := []
  /-- Empty before the first header. -/
  path : List Key := []
  isArray : Bool := false
  span : Option Span := some ⟨0, 0⟩

namespace Progress

/-- Changes the table that holds the last key of a path. -/
def atParent {β : Type} (root : Entries) (path : List Key)
    (f : Entries → Except Conflict (Entries × β)) : Except Conflict (Entries × β) :=
  Entries.change f [] path.dropLast root

/-- Puts the current table into the document. -/
def close (p : Progress) : Except Conflict Progress := do
  match p.path.getLast? with
  | none => return { p with root := p.current, current := [] }
  | some key =>
      let (root, ()) ← atParent p.root p.path fun entries =>
        if p.isArray then
          match Entries.find? entries key.text with
          | none => .ok (Entries.put entries key (.tables [(p.current, p.span)]), ())
          | some (.tables items) =>
              .ok (Entries.put entries key (.tables (items ++ [(p.current, p.span)])), ())
          | some _ => .error (.duplicate key.text (some (p.path.dropLast.map Key.text)))
        else .ok (Entries.put entries key (.table p.current {} p.span), ())
      return { p with root, current := [] }

/-- Begins the table of a header; what longer paths put into it before is kept. -/
def openTable (p : Progress) (path : List Key) (span : Span) : Except Conflict Progress := do
  let p := { (← p.close) with path, isArray := false, span := some span }
  match path.getLast? with
  | none => return p
  | some key =>
      let twice : Conflict := .duplicate key.text (some (path.dropLast.map Key.text))
      let (root, kept) ← atParent p.root path fun entries =>
        match Entries.find? entries key.text with
        | none => .ok (entries, [])
        | some (.table inner origin _) =>
            if origin.implicit && !origin.dotted then
              .ok (Entries.erase entries key.text, inner)
            else .error twice
        | some _ => .error twice
      return { p with root, current := kept }

/-- Begins the next table of an array of tables. -/
def openArrayTable (p : Progress) (path : List Key) (span : Span) :
    Except Conflict Progress := do
  let p := { (← p.close) with path, isArray := true, span := some span }
  match path.getLast? with
  | none => return p
  | some key =>
      let (root, ()) ← atParent p.root path fun entries =>
        match Entries.find? entries key.text with
        | none => .ok (Entries.put entries key (.tables []), ())
        | some (.tables _) => .ok (entries, ())
        | some _ => .error (.duplicate key.text (some (path.dropLast.map Key.text)))
      return { p with root }

/-- Adds a key with its value to the current table. -/
def define (p : Progress) (path : List Key) (node : Node) : Except Conflict Progress := do
  let current ← Entries.insertAt false {} (some (p.path.map Key.text)) node [] path p.current
  let span :=
    match p.span, node.span? with
    | some span, some last => some ⟨span.start, last.stop⟩
    | span, _ => span
  return { p with current, span }

end Progress

def conflicting {α : Type} (step : Except Conflict α) : Except String α :=
  step.mapError Conflict.message

def definition (p : Progress) : Scan Progress :=
  refine
    (do
      let key ← dottedKey
      commit do
        equals
        blanks
        let node ← value (depthLimit - 1)
        trailing
        return (key, node))
    fun (key, node) => conflicting (p.define key node)

def header (p : Progress) : Scan Progress :=
  labelled "table header" do
    match ← peekTwo with
    | none => fail
    | some ('[', '[') => read "[[" "]]" p.openArrayTable
    | some _ => read "[" "]" p.openTable
where
  read (left right : String)
      (next : List Key → Span → Except Conflict Progress) : Scan Progress :=
    refine
      (do
        let (keys, span) ← spanned do
          literal left
          let keys ← commit dottedKey
          expecting s!"`{right}`" (expecting "`.`" (commit (literal right)))
          return keys
        commit trailing
        return (keys, span))
      fun (keys, span) => conflicting (next keys span)

def lines : Nat → Progress → Scan Progress
  | 0, p => pure p
  | fuel + 1, p => do
      match ← peek with
      | none => return p
      | some c =>
          let p ←
            if c == '#' then do commit (do comment; lineEnd); pure p
            else if c == '[' then commit (header p)
            else if c == '\n' || c == '\r' then do newline; pure p
            else commit (definition p)
          blanks
          lines fuel p

def document : Scan Entries := do
  let _ ← optional (char '\ufeff')
  blanks
  let p ← fun c => lines (c.rest.length + 1) {} c
  if !(← atEnd) then fail
  refine (pure p) fun p => do return (← conflicting p.close).root

end Rerun.Toml
