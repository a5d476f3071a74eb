import Rerun.Proofs.Console.Agreement
import Rerun.Proofs.Json.RoundTrip

/-! The line that is written of an outcome, and what is read from it. -/

namespace Rerun.Outcome

/-- What a reader of the line is told of an outcome, the number of its cycle apart. -/
def told : Outcome → List (String × Json.Data)
  | .ok value => [("result", .string value.shown), ("status", .string "ok")]
  | .error failure =>
      [("error", .string failure.diagnostic.shown), ("kind", .string failure.stage.name),
        ("status", .string "error")]

theorem members_printable (outcome : Outcome) : ∀ m ∈ outcome.members, Json.Printable m.2 := by
  cases outcome <;> simp [members, Json.printable_string]

theorem line_printable (id : CycleId) (outcome : Outcome) : Json.Printable (outcome.line id) := by
  rw [line_eq]
  apply Json.printable_object
  rw [List.forall_mem_cons]
  exact ⟨Json.printable_toString id, outcome.members_printable⟩

theorem read?_line (id : CycleId) (outcome : Outcome) :
    Json.read? (outcome.line id) = some (.object (("cycle", .number id 0) :: outcome.told)) := by
  rw [line_eq]
  apply Json.read?_object
  refine .cons ⟨rfl, Json.stands_toString id⟩ ?_
  cases outcome with
  | ok value =>
      exact .cons ⟨rfl, Json.stands_string _⟩ (.cons ⟨rfl, Json.stands_string _⟩ .nil)
  | error failure =>
      exact .cons ⟨rfl, Json.stands_string _⟩
        (.cons ⟨rfl, Json.stands_string _⟩ (.cons ⟨rfl, Json.stands_string _⟩ .nil))

theorem members_eq_of_told {first second : Outcome} (same : first.told = second.told) :
    first.members = second.members := by
  cases first <;> cases second <;> simp_all [told, members]

theorem line_eq_iff (id other : CycleId) (first second : Outcome) :
    first.line id = second.line other ↔ id = other ∧ first.told = second.told := by
  constructor
  · intro same
    have read := congrArg Json.read? same
    rw [read?_line, read?_line] at read
    simp only [Option.some.injEq, Json.Data.object.injEq, List.cons.injEq, Prod.mk.injEq,
      Json.Data.number.injEq, true_and, and_true] at read
    exact ⟨Int.ofNat.inj read.1, read.2⟩
  · rintro ⟨rfl, same⟩
    rw [line_eq, line_eq, members_eq_of_told same]

theorem told_status_iff (outcome : Outcome) (errorPrefix : String) :
    outcome.told.lookup "status" = some (.string "ok") ↔
      (outcome.render errorPrefix).isError = false := by
  cases outcome with
  | ok value => exact iff_of_true rfl rfl
  | error failure =>
      apply iff_of_false
      · simp [told, List.lookup_cons]
      · exact Bool.noConfusion

theorem render_text (outcome : Outcome) (errorPrefix : String) :
    let rendered := outcome.render errorPrefix
    if rendered.isError then
      ∃ kind error,
        outcome.told =
          [("error", .string error), ("kind", .string kind), ("status", .string "error")] ∧
        rendered.text = errorPrefix ++ kind ++ " error: " ++ error
    else outcome.told = [("result", .string rendered.text), ("status", .string "ok")] := by
  cases outcome with
  | ok value => rfl
  | error failure =>
      refine ⟨failure.stage.name, failure.diagnostic.shown, rfl, ?_⟩
      simp [render, Failure.shown, toString, String.append_assoc]

/-- The line stays one line, says what the text form says, and is that of no outcome which would
be told differently. -/
theorem line_is_faithful (id : CycleId) (outcome : Outcome) (errorPrefix : String) :
    let rendered := outcome.render errorPrefix
    (∀ c ∈ (outcome.line id).toList, 0x20 ≤ c.toNat) ∧
    Json.read? (outcome.line id) = some (.object (("cycle", .number id 0) :: outcome.told)) ∧
    (∀ (other : CycleId) (second : Outcome), second.line other = outcome.line id ↔
      other = id ∧ second.told = outcome.told) ∧
    (outcome.told.lookup "status" = some (.string "ok") ↔ rendered.isError = false) ∧
    if rendered.isError then
      ∃ kind error,
        outcome.told =
          [("error", .string error), ("kind", .string kind), ("status", .string "error")] ∧
        rendered.text = errorPrefix ++ kind ++ " error: " ++ error
    else outcome.told = [("result", .string rendered.text), ("status", .string "ok")] :=
  ⟨outcome.line_printable id, outcome.read?_line id,
    fun other second => line_eq_iff other id second outcome,
    outcome.told_status_iff errorPrefix, outcome.render_text errorPrefix⟩

end Rerun.Outcome
