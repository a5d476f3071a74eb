import Rerun.Proofs.Diagnostic.Span
import Rerun.Proofs.Text.Cut

/-! The head of a report, which names a place, and the place that the diagnostic has. -/

namespace Rerun

namespace Report

/-- The first two lines of a report, of which the second names a line and a column. -/
def head (message file : String) (blanks : Nat) (place : Nat × Nat) : String :=
  "Error: " ++ message ++ "\n" ++ "".pushn ' ' blanks ++ "╭─[ " ++ file ++ ":" ++
    toString place.1 ++ ":" ++ toString place.2 ++ " ]" ++ "\n"

/-- Whether a report with this message and file names the place in its head. -/
def Names (report message file : String) (place : Nat × Nat) : Prop :=
  ∃ blanks rest, report = head message file blanks place ++ rest

@[simp] theorem toString_string (text : String) : toString text = text := rfl

theorem toList_pushn (blanks : Nat) :
    ("".pushn ' ' blanks).toList = List.replicate blanks ' ' := by
  rw [String.pushn_eq_repeat_push]
  induction blanks with
  | zero => rfl
  | succ blanks ih =>
      rw [Nat.repeat, String.toList_push, ih, ← List.replicate_succ']

theorem toList_head (message file : String) (blanks : Nat) (place : Nat × Nat) :
    (head message file blanks place).toList =
      ("Error: " ++ message ++ "\n").toList ++ (List.replicate blanks ' ' ++
        '╭' :: (("─[ " ++ file ++ ":").toList ++ (Nat.toDigits 10 place.1 ++
          ':' :: (Nat.toDigits 10 place.2 ++ ' ' :: [']', '\n'])))) := by
  unfold head
  simp [toList_pushn, Nat.toList_repr]

theorem Names.unique {report message file : String} {place other : Nat × Nat}
    (first : Names report message file place) (second : Names report message file other) :
    place = other := by
  obtain ⟨blanks, rest, rfl⟩ := first
  obtain ⟨blanks', rest', same⟩ := second
  have texts := congrArg String.toList same
  simp only [String.toList_append, toList_head, List.append_assoc,
    List.append_cancel_left_eq, List.cons_append] at texts
  have blank (n : Nat) : ∀ c ∈ List.replicate n ' ', c == ' ' := fun c member =>
    beq_iff_eq.mpr (List.eq_of_mem_replicate member)
  obtain ⟨-, places⟩ := append_cons_inj (blank blanks) (blank blanks') rfl texts
  simp only [List.append_cancel_left_eq] at places
  obtain ⟨lines, columns⟩ := toDigits_append_cons_inj rfl places
  exact Prod.ext lines (toDigits_append_cons_inj rfl columns).1

theorem names_lines (file message : String) (number : Nat) (line : List Char)
    (column length : Nat) :
    Names (String.join ((lines file message number line column length).map (· ++ "\n")))
      message file (number + 1, column + 1) := by
  obtain ⟨more, shape⟩ : ∃ more, lines file message number line column length =
      ("Error: " ++ message) ::
        ("".pushn ' ' ((toString (number + 1)).length + 2) ++ "╭─[ " ++ file ++ ":" ++
          toString (number + 1) ++ ":" ++ toString (column + 1) ++ " ]") :: more := by
    refine ⟨(lines file message number line column length).drop 2, ?_⟩
    simp only [lines, toString_string, List.drop_succ_cons, List.drop_zero]
  refine ⟨(toString (number + 1)).length + 2, String.join (more.map (· ++ "\n")), ?_⟩
  rw [shape, List.map_cons, List.map_cons, String.join_cons, String.join_cons]
  unfold head
  simp only [String.append_assoc]

/-- The report on an offset that splits the text names the place as the lines of a report count
it. -/
theorem names_draw (file message : String) (before after : List Char) :
    Names (draw file message (before ++ after) (Position.byteSize before)) message file
      (Line.place before after) := by
  obtain ⟨index, line, sought, place⟩ := Line.at?_ofChars before after
  rw [draw, sought, place]
  exact names_lines ..

end Report

namespace Diagnostic

open Report (Names)

theorem names_of_split {text : String} {offset : Nat} {before after : List Char}
    (split : text.toList = before ++ after)
    (start : (Position.resolve text offset).offset = Position.byteSize before)
    (message file : String) :
    Names ((located message text offset).render file text) message file
      (Line.place before after) := by
  rw [render_of_split rfl split start]
  exact Report.names_draw file message before after

/-- The head of the report on a diagnostic names the line and column of its one-line form, unless
the diagnostic stands behind the line feed that ends the text, or behind something else that
breaks a line of the report. -/
theorem head_names_place_iff (message file text : String) (offset : Nat) :
    let d := located message text offset
    let p := Position.resolve text offset
    d.shown = message ++ " (at " ++ toString p.line ++ ":" ++ toString p.column ++ ")" ∧
    ∃ before after, text.toList = before ++ after ∧ Position.byteSize before = p.offset ∧
      Names (d.render file text) message file (Line.place before after) ∧
      (Names (d.render file text) message file (p.line, p.column) ↔
        ¬Line.AfterLastFeed before after ∧ Line.OnlyFeeds before after) := by
  intro d p
  obtain ⟨before, after, split, -, place⟩ := Position.exists_split_resolve text offset
  have start : p.offset = Position.byteSize before := congrArg Position.offset place
  have scanned : (p.line, p.column) = Position.scan before := by
    simp only [p, place]
  have named := names_of_split split start message file
  refine ⟨shown_of_place rfl, before, after, split, start.symm, named, ?_⟩
  rw [← Line.place_eq_scan_iff, scanned]
  exact ⟨named.unique, fun same => same ▸ named⟩

/-- At the end of a text that ends with a line feed, the report names the line before. -/
theorem head_names_line_before_end :
    let d := located "here" "a\n" 2
    d.shown = "here (at 2:1)" ∧ Names (d.render "main.wat" "a\n") "here" "main.wat" (1, 3) ∧
      ¬Names (d.render "main.wat" "a\n") "here" "main.wat" (2, 1) := by
  intro d
  have split : "a\n".toList = ['a', '\n'] ++ [] := by decide
  have named : Names (d.render "main.wat" "a\n") "here" "main.wat" (1, 3) :=
    names_of_split split (by decide) "here" "main.wat"
  refine ⟨by decide, named, fun other => ?_⟩
  cases named.unique other

end Diagnostic

end Rerun
