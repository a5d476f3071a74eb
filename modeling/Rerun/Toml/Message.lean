import Rerun.Text.Position
import Rerun.Toml.Document

/-! The text of a fault in a document: the line it is on, marked, and what was
wrong. -/

namespace Rerun.Toml

/-- What is wrong, and with which bytes. -/
structure Problem where
  message : String
  span : Option Span
deriving DecidableEq, Repr

def Fault.message (f : Fault) : String :=
  let parts :=
    (f.label.map fun label => s!"invalid {label}").toList ++
      (if f.expected.isEmpty then [] else ["expected " ++ ", ".intercalate f.expected]) ++
      f.cause.toList
  "\n".intercalate parts

/-- The whole character at the fault, or nothing at the end. -/
def Fault.problem (f : Fault) (text : String) : Problem :=
  let width := ((Position.charsFrom text.toList f.offset).head?.map Char.utf8Size).getD 0
  ⟨f.message, some ⟨f.offset, f.offset + width⟩⟩

/-- Zero-based line and column of an offset.  Past the last byte they are those of
the last byte, moved on.  The column counts characters, or bytes where the offset is
at a character of several bytes. -/
def place (text : String) (offset : Nat) : Nat × Nat :=
  let chars := text.toList
  let size := text.utf8ByteSize
  if size = 0 then (0, offset)
  else
    let index := min offset (size - 1)
    let before := Position.charsBefore chars index
    let inLine := before.reverse.takeWhile (· != '\n')
    let column :=
      if Position.isBoundary chars (index + 1) then
        (Position.charsBefore chars (index + 1)).length - (before.length - inLine.length) - 1
      else index - Position.byteSize (before.take (before.length - inLine.length))
    (before.count '\n', column + (offset - index))

def Problem.shown (p : Problem) (text : String) : String :=
  let excerpt :=
    match p.span with
    | none => ""
    | some span =>
        let (line, column) := place text span.start
        let number := toString (line + 1)
        let content := ((text.splitOn "\n")[line]?).getD ""
        let length := min (span.stop - span.start) (content.utf8ByteSize - column)
        let gutter := "".pushn ' ' (number.length + 1)
        let marks := "".pushn '^' (max length 1)
        s!"TOML parse error at line {number}, column {column + 1}\n" ++
          s!"{gutter}|\n{number} | {content}\n{gutter}|" ++
          "".pushn ' ' (column + 1) ++ marks ++ "\n"
  excerpt ++ p.message ++ "\n"

/-- The top-level entries of a document. -/
def parse (text : String) : Except Problem Entries :=
  match document ⟨text.toList, 0⟩ with
  | .ok (entries, _) => .ok entries
  | .error fault => .error (fault.problem text)

end Rerun.Toml
