import Rerun.Diagnostic.Report
import Rerun.Proofs.Text.Lines

/-! The bytes that a report labels.  A diagnostic is drawn into any source in which its offset is
a boundary, and labels the character there. -/

namespace Rerun

namespace Report

end Report

namespace Diagnostic

theorem shown_of_place {d : Diagnostic} {p : Position} (place : d.place = some p) :
    d.shown =
      d.message ++ " (at " ++ toString p.line ++ ":" ++ toString p.column ++ ")" := by
  rw [shown, place]
  rfl

section Split

variable {d : Diagnostic} {source : String} {p : Position} {before after : List Char}
  (place : d.place = some p) (split : source.toList = before ++ after)
  (start : p.offset = Position.byteSize before)

include place split start

theorem render_of_split (file : String) :
    d.render file source =
      Report.draw file d.message (before ++ after) (Position.byteSize before) := by
  have boundary : Position.isBoundary source.toList p.offset :=
    Position.isBoundary_iff_exists_append.mpr ⟨before, after, split, start.symm⟩
  rw [render, place]
  dsimp only
  rw [if_pos boundary, start, split]

end Split

end Diagnostic

end Rerun
