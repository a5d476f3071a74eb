/-! The text that last started a cycle.  It is replaced as soon as a change is
seen, so a text that fails is not tried again while it stays. -/

namespace Rerun

structure Baseline where
  text : String := ""
deriving DecidableEq, Repr

namespace Baseline

/-- Whether the text differs, and the baseline from then on. -/
def observe (b : Baseline) (text : String) : Bool × Baseline :=
  if b.text = text then (false, b) else (true, ⟨text⟩)

@[simp] theorem observe_text (b : Baseline) (text : String) :
    (b.observe text).2.text = text := by
  unfold observe
  split <;> simp_all

end Baseline

end Rerun
