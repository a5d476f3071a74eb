import Rerun.Diagnostic
import Rerun.Text.Line
import Rerun.Text.Width

/-! A diagnostic drawn into its source: the line at fault with one character, or
the end of the text, underlined and labelled with the message. -/

namespace Rerun.Report

/-- What is drawn for a character in a given column of its line: a tab reaches
to the next multiple of four, other white space is one blank. -/
def cell (column : Nat) (c : Char) : Char × Nat :=
  if c == '\t' then (' ', (column / 4 + 1) * 4 - column)
  else if Width.isBlank c then (' ', 1)
  else (c, Width.ofChar c)

def trimEnd (chars : List Char) : List Char :=
  (chars.reverse.dropWhile Width.isBlank).reverse

/-- A line as it is shown. -/
def drawn (chars : List Char) : List Char :=
  (chars.zipIdx.map fun (c, column) =>
    let (shown, width) := cell column c
    if Width.isBlank c then List.replicate width shown else [shown]).flatten

/-- Cells for the columns below `count`, under a line's characters; columns past
the line are one wide.  `pick` gives the mark and its continuation. -/
def under (chars : List Char) (count : Nat) (pick : Nat → Char × Char) : List Char :=
  ((List.range count).map fun column =>
    let width := (chars[column]?.map fun c => (cell column c).2).getD 1
    let (mark, tail) := pick column
    if width = 0 then [] else mark :: List.replicate (width - 1) tail).flatten

/-- The report on a label of `length` characters, none or one, at a character
column of a line. -/
def lines (file message : String) (number : Nat) (line : List Char)
    (column length : Nat) : List String :=
  let digits := toString (number + 1)
  let margin := "".pushn ' ' (digits.length + 2)
  let text := trimEnd line
  let reach := column + length + 2
  let pointer (here : Nat) : Char × Char :=
    if here = column then (if length = 0 then ('│', ' ') else ('┬', '─')) else (' ', ' ')
  let hook (here : Nat) : Char × Char :=
    if here = column then ('╰', '─') else if column < here then ('─', '─') else (' ', ' ')
  [ s!"Error: {message}",
    s!"{margin}╭─[ {file}:{digits}:{column + 1} ]",
    s!"{margin}│",
    s!" {digits} │ {String.ofList (drawn text)}",
    s!"{margin}│ {String.ofList (under text reach pointer)}",
    s!"{margin}│ {String.ofList (under text reach hook)} {message}",
    "".pushn '─' (digits.length + 2) ++ "╯" ]

/-- Draws the character at the offset, which is a boundary of the source. -/
def draw (file message : String) (source : List Char) (offset : Nat) : String :=
  match Line.at? (Line.ofChars source) offset with
  | none => message
  | some (number, line) =>
      let column := (Position.charsBefore line.chars (offset - line.start)).length
      let length := if (Position.charsFrom source offset).isEmpty then 0 else 1
      String.join ((lines file message number line.chars column length).map (· ++ "\n"))

end Report

/-- Falls back to the one-line form when there is no place, or when it is not a
character boundary of the source. -/
def Diagnostic.render (d : Diagnostic) (file source : String) : String :=
  match d.place with
  | none => d.shown
  | some p =>
      if Position.isBoundary source.toList p.offset then
        Report.draw file d.message source.toList p.offset
      else d.shown

end Rerun
