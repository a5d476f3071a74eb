import Rerun.Toml.Scanner

/-! Documents as trees: values, tables, and arrays of tables, with the bytes each
was written in. -/

namespace Rerun.Toml

structure Key where
  text : String
  span : Span
deriving DecidableEq, Repr

/-- How a table came to be. -/
structure Origin where
  /-- Made for a longer path, not by a header of its own. -/
  implicit : Bool := false
  /-- Made for a dotted key. -/
  dotted : Bool := false
deriving DecidableEq, Repr

inductive Node
  | string (text : String) (span : Span)
  | integer (value : Int) (span : Span)
  | float (bits : Nat) (span : Span)
  | boolean (value : Bool) (span : Span)
  | datetime (span : Span)
  | array (size : Nat) (span : Span)
  | inlineTable (entries : List (Key × Node)) (origin : Origin) (span : Option Span)
  | table (entries : List (Key × Node)) (origin : Origin) (span : Option Span)
  | tables (items : List (List (Key × Node) × Option Span))

abbrev Entries := List (Key × Node)

namespace Node

def joinSpans (spans : List (Option Span)) : Option Span :=
  match spans.head?, spans.getLast? with
  | some (some first), some (some last) => some ⟨first.start, last.stop⟩
  | _, _ => none

def span? : Node → Option Span
  | string _ span | integer _ span | float _ span | boolean _ span | datetime span
  | array _ span => some span
  | inlineTable _ _ span | table _ _ span => span
  | tables items => joinSpans (items.map (·.2))

/-- The name of a value's type, none for what is not a single value. -/
def typeName? : Node → Option String
  | string .. => some "string"
  | integer .. => some "integer"
  | float .. => some "float"
  | boolean .. => some "boolean"
  | datetime .. => some "datetime"
  | array .. => some "array"
  | inlineTable .. => some "inline table"
  | table .. | tables .. => none

end Node

namespace Entries

def find? (entries : Entries) (key : String) : Option Node :=
  (List.find? (fun entry => entry.1.text == key) entries).map (·.2)

def contains (entries : Entries) (key : String) : Bool :=
  List.any entries (·.1.text == key)

def erase (entries : Entries) (key : String) : Entries :=
  entries.filter (·.1.text != key)

/-- Replaces the value of a key in its place, or adds the key at the end. -/
def put (entries : Entries) (key : Key) (node : Node) : Entries :=
  if contains entries key.text then
    entries.map fun entry => if entry.1.text == key.text then (entry.1, node) else entry
  else entries ++ [(key, node)]

end Entries

/-- Why well-formed parts do not make a document. -/
inductive Conflict
  /-- A key defined twice in the table at a path; the path is not always told. -/
  | duplicate (key : String) (path : Option (List String))
  | notATable (path : List String) (actual : String)
deriving DecidableEq, Repr

def Conflict.message : Conflict → String
  | duplicate key none => s!"duplicate key `{key}`"
  | duplicate key (some []) => s!"duplicate key `{key}` in document root"
  | duplicate key (some path) =>
      let shown := ".".intercalate path
      s!"duplicate key `{key}` in table `{shown}`"
  | notATable path actual =>
      let shown := ".".intercalate path
      s!"dotted key `{shown}` attempted to extend non-table type ({actual})"

namespace Entries

/-- Changes the entries at the end of a path, making the tables on the way. -/
def change {β : Type} (f : Entries → Except Conflict (Entries × β)) :
    List String → List Key → Entries → Except Conflict (Entries × β)
  | _, [], entries => f entries
  | above, key :: rest, entries =>
      let path := above ++ [key.text]
      match find? entries key.text with
      | none => do
          let (inner, found) ← change f path rest []
          return (put entries key (.table inner ⟨true, false⟩ none), found)
      | some (.table inner origin span) => do
          let (inner, found) ← change f path rest inner
          return (put entries key (.table inner origin span), found)
      | some (.tables items) =>
          match items.getLast? with
          | none => .error (.duplicate key.text none)
          | some (last, span) => do
              let (inner, found) ← change f path rest last
              return (put entries key (.tables (items.dropLast ++ [(inner, span)])), found)
      | some node => .error (.notATable path (node.typeName?.getD ""))

/-- Adds an entry at a dotted path below a table of the given origin. -/
def insertAt (isInline : Bool) (origin : Origin) (tablePath : Option (List String))
    (node : Node) : List String → List Key → Entries → Except Conflict Entries
  | _, [], _ => .error (.duplicate "" none)
  | above, [key], entries =>
      if origin.dotted = above.isEmpty then .error (.duplicate key.text none)
      else if contains entries key.text then .error (.duplicate key.text tablePath)
      else .ok (entries ++ [(key, node)])
  | above, key :: rest, entries =>
      let path := above ++ [key.text]
      let made := (⟨true, true⟩ : Origin)
      match find? entries key.text with
      | none => do
          let inner ← insertAt isInline made tablePath node path rest []
          let child := if isInline then Node.inlineTable inner made none else .table inner made none
          return put entries key child
      | some (.table inner childOrigin span) =>
          if !childOrigin.implicit then .error (.duplicate key.text none)
          else do
            let inner ← insertAt isInline childOrigin tablePath node path rest inner
            return put entries key (.table inner childOrigin span)
      | some (.inlineTable inner childOrigin span) =>
          if !isInline then .error (.notATable path "inline table")
          else if !childOrigin.implicit then .error (.duplicate key.text none)
          else do
            let inner ← insertAt isInline childOrigin tablePath node path rest inner
            return put entries key (.inlineTable inner childOrigin span)
      | some (.tables items) =>
          match items.getLast? with
          | none => .error (.duplicate key.text none)
          | some (last, span) => do
              let inner ← insertAt isInline {} tablePath node path rest last
              return put entries key (.tables (items.dropLast ++ [(inner, span)]))
      | some other => .error (.notATable path (other.typeName?.getD ""))

end Entries

end Rerun.Toml
