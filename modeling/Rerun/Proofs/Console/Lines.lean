import Rerun.Proofs.Console.Line
import Rerun.Proofs.Console.Watch
import Rerun.Proofs.Diagnostic.Span
import Rerun.Proofs.Value.Printable
import Rerun.Proofs.Wasm.Entry
import Rerun.Wasm.Assembler

/-! The lines that commands print.  In JSON a report is a line.  Otherwise it is one unless a
failure brings a line feed along: the prefix of the settings is printed as it stands, and so
are the names and the excerpts in a message. -/

namespace Rerun

/-- The lines of a text, each of which ends with a line feed. -/
def linesOf (output : String) : List String :=
  (output.toList.splitOn '\n').dropLast.map String.ofList

/-- What a text comes to when it is printed and a line feed behind it. -/
def piecesOf (text : String) : List String := (text.toList.splitOn '\n').map String.ofList

section Lines

theorem length_splitOn (chars : List Char) :
    (chars.splitOn '\n').length = chars.count '\n' + 1 := by
  induction chars with
  | nil => rfl
  | cons c rest ih =>
      rw [List.splitOn_cons_eq_if_modifyHead, List.count_cons]
      split
      · rw [List.length_cons, ih]
      · rw [List.length_modifyHead, ih]

@[simp] theorem length_piecesOf (text : String) :
    (piecesOf text).length = text.toList.count '\n' + 1 := by
  rw [piecesOf, List.length_map, length_splitOn]

theorem piecesOf_of_not_mem {text : String} (whole : '\n' ∉ text.toList) :
    piecesOf text = [text] := by
  rw [piecesOf, List.splitOn_eq_singleton whole, List.map_singleton, String.ofList_toList]

theorem linesOf_printed_append (text rest : String) :
    linesOf (text ++ "\n" ++ rest) = piecesOf text ++ linesOf rest := by
  have chars : (text ++ "\n" ++ rest).toList = text.toList ++ '\n' :: rest.toList := by
    simp
  rw [linesOf, chars, List.splitOn_append_cons_self,
    List.dropLast_append_of_ne_nil (List.splitOn_ne_nil _ _), List.map_append]
  rfl

theorem linesOf_join (texts : List String) :
    linesOf (String.join (texts.map (· ++ "\n"))) = texts.flatMap piecesOf := by
  induction texts with
  | nil => rfl
  | cons text rest ih =>
      rw [List.map_cons, String.join_cons, linesOf_printed_append, ih, List.flatMap_cons]

theorem length_linesOf_join (texts : List String) :
    (linesOf (String.join (texts.map (· ++ "\n")))).length =
      texts.length + (texts.map (·.toList.count '\n')).sum := by
  rw [linesOf_join]
  induction texts with
  | nil => rfl
  | cons text rest ih =>
      rw [List.flatMap_cons, List.length_append, length_piecesOf, ih, List.length_cons,
        List.map_cons, List.sum_cons]
      omega

theorem length_linesOf_join_iff (texts : List String) :
    (linesOf (String.join (texts.map (· ++ "\n")))).length = texts.length ↔
      ∀ text ∈ texts, '\n' ∉ text.toList := by
  rw [length_linesOf_join, Nat.add_eq_left, List.sum_eq_zero_iff_forall_eq_nat]
  simp [List.count_eq_zero]

theorem linesOf_join_iff (texts : List String) :
    linesOf (String.join (texts.map (· ++ "\n"))) = texts ↔
      ∀ text ∈ texts, '\n' ∉ text.toList := by
  constructor
  · intro same
    exact (length_linesOf_join_iff texts).mp (congrArg List.length same)
  · intro whole
    rw [linesOf_join]
    induction texts with
    | nil => rfl
    | cons text rest ih =>
        obtain ⟨here, others⟩ := List.forall_mem_cons.mp whole
        rw [List.flatMap_cons, piecesOf_of_not_mem here, ih others]
        rfl

end Lines

theorem Json.Printable.feed_not_mem {text : String} (printable : Printable text) :
    '\n' ∉ text.toList := fun member => absurd (printable '\n' member) (by decide)

theorem Diagnostic.feed_mem_shown_iff (d : Diagnostic) :
    '\n' ∈ d.shown.toList ↔ '\n' ∈ d.message.toList := by
  obtain ⟨message, place⟩ := d
  cases place with
  | none => rfl
  | some p =>
      have digits (n : Nat) : '\n' ∉ Nat.toDigits 10 n := fun member =>
        absurd (isDigit_of_mem_toDigits member) (by decide)
      rw [shown_of_place rfl]
      simp [digits]

theorem Failure.feed_mem_shown_iff (f : Failure) :
    '\n' ∈ f.shown.toList ↔ '\n' ∈ f.diagnostic.message.toList := by
  have shown : f.shown = f.stage.name ++ " error: " ++ f.diagnostic.shown := rfl
  rw [shown, String.toList_append, List.mem_append, f.diagnostic.feed_mem_shown_iff,
    or_iff_right]
  cases f.stage <;> decide

namespace Wasm

theorem printable_gathered (types : List (ValType Nat)) (bits : List Nat) :
    Json.Printable (gathered (valuesOf types bits)).shown := by
  apply Value.printable_shown
  intro description member
  rw [leaves_gathered (valuesOf_hasType types bits)] at member
  split at member
  next => cases List.mem_singleton.mp member
  next =>
    obtain ⟨⟨type, i⟩, -, same⟩ := List.mem_map.mp member
    cases type with
    | ref type =>
        have printable : ∀ word ∈ ["funcref", "externref", "anyref"], Json.Printable word := by
          decide
        obtain rfl := Value.reference.inj same
        split
        · decide
        · exact printable _ (referenceWord_mem type)
    | i32 | i64 | f32 | f64 | v128 => cases same

theorem printable_of_reference {settings : Settings} {text : String} {value : Value}
    (ended : reference assembler sandbox settings text = .ok value) :
    Json.Printable value.shown := by
  rw [reference] at ended
  split at ended
  next => cases ended
  next binary _ =>
    obtain ⟨entry, -, called⟩ := outcome_eq_ok_iff.mp ended
    obtain ⟨-, bits, store, -, rfl⟩ := callEntry_eq_ok_iff.mp called
    exact printable_gathered entry.function.type.results bits

end Wasm

namespace Console

variable {Handle Instance : Type}

/-- A report without the line feed behind it. -/
def reportText (settings : Settings) (json : Bool) (id : CycleId) (outcome : Outcome) : String :=
  if json then outcome.line id else (outcome.render settings.errorPrefix).text

theorem printed_eq (settings : Settings) (json : Bool) (id : CycleId) (outcome : Outcome) :
    printed settings json id outcome = reportText settings json id outcome ++ "\n" := by
  cases json <;> rfl

theorem printedAll_eq (settings : Settings) (json : Bool)
    (reports : List (CycleId × Outcome)) :
    printedAll settings json reports =
      String.join ((reports.map fun (id, outcome) =>
        reportText settings json id outcome).map (· ++ "\n")) := by
  simp only [printedAll, printed_eq, List.map_map, Function.comp_def]

/-- Nothing that is put into the text of an outcome has a line feed. -/
def KeepsToLine (settings : Settings) : Outcome → Prop
  | .ok value => '\n' ∉ value.shown.toList
  | .error f => '\n' ∉ settings.errorPrefix.toList ∧ '\n' ∉ f.diagnostic.message.toList

theorem feed_not_mem_reportText_iff (settings : Settings) (json : Bool) (id : CycleId)
    (outcome : Outcome) :
    '\n' ∉ (reportText settings json id outcome).toList ↔
      json = true ∨ KeepsToLine settings outcome := by
  cases json with
  | true => exact iff_of_true (outcome.line_printable id).feed_not_mem (.inl rfl)
  | false =>
      rw [or_iff_right Bool.false_ne_true]
      cases outcome with
      | ok value => rfl
      | error f =>
          have text : reportText settings false id (.error f) = settings.errorPrefix ++ f.shown :=
            rfl
          rw [text, String.toList_append, List.mem_append, f.feed_mem_shown_iff, not_or]
          rfl

/-- A command that reports. -/
inductive Command
  | run (files : Files) (path : String)
  /-- With the file as it is found at each frame. -/
  | watch (path : String) (found : List (Except ReadError String))

namespace Command

variable (setup : Setup Handle Instance) (json : Bool) (command : Command)

def output : Command → String
  | run files path => (Console.run setup json files path).output
  | watch path found => Console.watch setup json (FileReader.readings { path } found)

/-- The cycles that are reported. -/
def reports : Command → List (CycleId × Outcome)
  | run files path =>
      (Session.serve setup {} (FileReader.read { path } (files path)).1).delivered
  | watch path found =>
      (watched setup (FileReader.readings { path } found)).session.delivered

/-- The readings of the file, of which a run has one. -/
def readings : Command → List (Option String)
  | run files path => [(files path).toOption]
  | watch _ found => found.map Except.toOption

theorem reports_eq :
    command.reports setup =
      (changes ("" :: command.readings.filterMap id)).zipIdx.map fun (text, id) =>
        (id, reference setup.assembler setup.sandbox setup.settings text) := by
  rw [← (Session.foldl_served setup command.readings).delivered_eq]
  cases command with
  | run files path => rw [reports, FileReader.read_fst]; rfl
  | watch path found =>
      rw [reports, FileReader.readings_eq, watched, Ticker.foldl_frame_session setup rfl]
      rfl

theorem output_eq :
    command.output setup json = printedAll setup.settings json (command.reports setup) := by
  cases command with
  | watch path found => rfl
  | run files path =>
      by_cases filled : ∃ text, files path = .ok text ∧ text ≠ ""
      · obtain ⟨text, found, nonempty⟩ := filled
        obtain ⟨-, delivered, -⟩ := Session.serve_text setup nonempty
        rw [output, run_of_text setup json found nonempty, reports, FileReader.read_fst, found,
          Except.toOption, delivered]
        rfl
      · have empty : ∀ text, files path = .ok text → text = "" := by simpa using filled
        have none : (run files path).reports setup = [] := by
          rw [reports_eq, readings]
          cases found : files path with
          | error e => rfl
          | ok text =>
              obtain rfl := empty text found
              rfl
        rw [output, run_of_nothing setup json empty, none]
        rfl

theorem exists_text_of_report {id : CycleId} {outcome : Outcome}
    (reported : (id, outcome) ∈ command.reports setup) :
    ∃ text, outcome = reference setup.assembler setup.sandbox setup.settings text := by
  rw [reports_eq] at reported
  obtain ⟨⟨text, number⟩, -, same⟩ := List.mem_map.mp reported
  cases same
  exact ⟨text, rfl⟩

end Command

/-- The lines that a run or a watch of WebAssembly prints are its reports, one line for each,
in their order: in JSON always, and else if and only if no failure among them brings a line
feed along, from the prefix of the settings or in its message.  Each such line feed makes for
one line more. -/
theorem lines_are_reports_iff (settings : Settings) (json : Bool) (command : Command) :
    let setup : Setup ByteArray Wasm.EntryPoint := ⟨Wasm.assembler, Wasm.sandbox, settings⟩
    let reports := command.reports setup
    let texts := reports.map fun (id, outcome) => reportText settings json id outcome
    let lines := linesOf (command.output setup json)
    let kept := ∀ id f, (id, .error f) ∈ reports →
      '\n' ∉ settings.errorPrefix.toList ∧ '\n' ∉ f.diagnostic.message.toList
    lines.length = reports.length + (texts.map (·.toList.count '\n')).sum ∧
    (lines = texts ↔ json = true ∨ kept) ∧
    (lines.length = reports.length ↔ json = true ∨ kept) := by
  intro setup reports texts lines kept
  have split : lines = linesOf (String.join (texts.map (· ++ "\n"))) := by
    rw [← printedAll_eq, ← command.output_eq setup json]
  have free : (∀ text ∈ texts, '\n' ∉ text.toList) ↔ json = true ∨ kept := by
    simp only [texts, List.forall_mem_map, Prod.forall, feed_not_mem_reportText_iff]
    cases json with
    | true => simp
    | false =>
        simp only [Bool.false_eq_true, false_or]
        constructor
        · intro keeps id f reported
          exact keeps id _ reported
        · intro kept id outcome reported
          cases outcome with
          | error f => exact kept id f reported
          | ok value =>
              obtain ⟨text, ended⟩ := command.exists_text_of_report setup reported
              exact (Wasm.printable_of_reference ended.symm).feed_not_mem
  have count : texts.length = reports.length := List.length_map _
  refine ⟨?_, ?_, ?_⟩
  · rw [split, length_linesOf_join, count]
  · rw [split, linesOf_join_iff, free]
  · rw [split, ← count, length_linesOf_join_iff, free]

/-- A file whose binary does not begin like one. -/
def garbled : Command := .run (fun _ => .ok "(module binary \"\\00asn\")") "main.wat"

set_option maxRecDepth 10000 in
/-- Its one report is spread over eleven lines, since the message lists the bytes. -/
theorem report_spread_over_lines :
    let setup : Setup ByteArray Wasm.EntryPoint := ⟨Wasm.assembler, Wasm.sandbox, {}⟩
    (garbled.reports setup).length = 1 ∧
      (linesOf (garbled.output setup false)).length = 11 := by
  decide +kernel

end Console

end Rerun
