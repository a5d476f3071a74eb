import Rerun.Proofs.Console.Agreement
import Rerun.Proofs.Desk.Timed
import Rerun.Rehearsal

/-! A file that is watched.  The loop keeps one session for good, and one reader that remembers
its last failure; what it prints is still what separate runs print, one for each change of the
text. -/

namespace Rerun

variable {Handle Instance : Type}

theorem FileReader.readings_eq (r : FileReader) (found : List (Except ReadError String)) :
    r.readings found = found.map Except.toOption := by
  induction found generalizing r with
  | nil => rfl
  | cons first rest ih =>
      rw [readings, List.map_cons]
      dsimp only
      rw [read_fst, ih]

theorem changes_subset (texts : List String) : changes texts ⊆ texts := by
  intro text member
  obtain ⟨pair, changed, rfl⟩ := List.mem_map.mp member
  exact List.mem_of_mem_tail (List.of_mem_zip (List.mem_filter.mp changed).1).2

/-- Where no text is empty, the first one is always a change. -/
theorem changes_of_nonempty {texts : List String} (nonempty : "" ∉ texts) :
    changes ("" :: texts) = texts.take 1 ++ changes texts := by
  cases texts with
  | nil => rfl
  | cons first rest =>
      have other : "" ≠ first := fun same => nonempty (same ▸ List.mem_cons_self)
      simp [changes, other]

theorem Ticker.foldl_frame_session (setup : Setup Handle Instance) {t : Ticker Instance}
    (armed : t.frames.isArmed) (readings : List (Option String)) :
    (readings.foldl (frame setup) t).session =
      readings.foldl (Session.serve setup) t.session := by
  induction readings generalizing t with
  | nil => rfl
  | cons reading rest ih =>
      rw [List.foldl_cons, List.foldl_cons, ih (frame_isArmed setup armed reading),
        frame_of_isArmed setup armed]
      rfl

section Pace

/-! How often a file is looked at is not told by any report. -/

variable (settings : Settings) (period : Nat)

theorem Assembler.assemble_paced (assembler : Assembler Handle) (serial : Nat) (text : String) :
    assembler.assemble { settings with frameIntervalMs := period } serial text =
      assembler.assemble settings serial text := by
  simp only [assemble, Settings.parseOptions]

theorem reference_paced (assembler : Assembler Handle) (sandbox : Sandbox Instance)
    (text : String) :
    reference assembler sandbox { settings with frameIntervalMs := period } text =
      reference assembler sandbox settings text := by
  simp only [reference, assembler.assemble_paced]

theorem Console.printed_paced (json : Bool) (id : CycleId) (outcome : Outcome) :
    printed { settings with frameIntervalMs := period } json id outcome =
      printed settings json id outcome := rfl

end Pace

namespace Console

open CommandLine (Order)

theorem printed_text (settings : Settings) (id : CycleId) (outcome : Outcome) :
    printed settings false id outcome = (outcome.render settings.errorPrefix).text ++ "\n" := by
  rw [printed, if_neg Bool.false_ne_true]

theorem printed_json (settings : Settings) (id : CycleId) (outcome : Outcome) :
    printed settings true id outcome =
      Json.object (("cycle", toString id) :: outcome.members) ++ "\n" := by
  rw [printed, if_pos rfl, Outcome.line_eq]

/-- The reports of a watched file, each with its number. -/
theorem watch_eq (setup : Setup Handle Instance) (json : Bool)
    (readings : List (Option String)) :
    watch setup json readings =
      String.join ((changes ("" :: readings.filterMap id)).zipIdx.map fun (text, id) =>
        printed setup.settings json id
          (reference setup.assembler setup.sandbox setup.settings text)) := by
  have served := Session.foldl_served setup readings
  have session : (watched setup readings).session =
      readings.foldl (Session.serve setup) {} := by
    rw [watched, Ticker.foldl_frame_session setup rfl]
    rfl
  rw [watch, printedAll, session, served.delivered_eq, List.map_map]
  rfl

theorem perform_watch (assembler : Assembler Handle) (sandbox : Sandbox Instance)
    {files : Files} {order : Order} {settings : Settings}
    (configured : settingsOf files order = .ok settings) (verb : order.verb = .watch) :
    perform assembler sandbox files order =
      .watching
        { settings with frameIntervalMs := order.interval.getD settings.frameIntervalMs }
        order := by
  simp only [perform, configured, verb]

/-- Watching is running again and again.  There is one report for each text that differs from
the last one read, the first always, in their order.  It is what a run of its own prints for
that text, whatever came before, but for the number that JSON tells. -/
theorem watch_is_run_repeated (assembler : Assembler Handle) (sandbox : Sandbox Instance)
    {files : Files} {order : Order} {settings : Settings}
    (configured : settingsOf files order = .ok settings)
    {found : List (Except ReadError String)} (nonempty : .ok "" ∉ found) :
    let texts := found.filterMap Except.toOption
    let changed := texts.take 1 ++ changes texts
    ∃ (watching : Settings) (reports : List String),
      perform assembler sandbox files { order with verb := .watch } =
        .watching watching { order with verb := .watch } ∧
      watch ⟨assembler, sandbox, watching⟩ order.json
        (FileReader.readings { path := order.file } found) = String.join reports ∧
      reports.length = changed.length ∧
      ∀ (cycle : CycleId) (text report : String),
        changed[cycle]? = some text → reports[cycle]? = some report →
        ∀ others : Files, settingsOf others order = .ok settings →
          others order.file = .ok text →
          ∃ ending,
            perform assembler sandbox others { order with verb := .run } = .ended ending ∧
            if order.json then
              ∃ members,
                report = Json.object (("cycle", toString cycle) :: members) ++ "\n" ∧
                ending.output = Json.object (("cycle", toString 0) :: members) ++ "\n"
            else report = ending.output := by
  intro texts changed
  have known : (found.map Except.toOption).filterMap id = texts := by
    rw [List.filterMap_map]
    rfl
  have filled : "" ∉ texts := by
    intro member
    obtain ⟨reading, read, empty⟩ := List.mem_filterMap.mp member
    cases reading with
    | error e => cases empty
    | ok text =>
        cases empty
        exact nonempty read
  refine ⟨_, changed.zipIdx.map fun (text, id) =>
      printed settings order.json id (reference assembler sandbox settings text),
    perform_watch assembler sandbox configured rfl, ?_, ?_, ?_⟩
  · rw [watch_eq, FileReader.readings_eq, known, changes_of_nonempty filled]
    simp only [reference_paced, printed_paced]
    rfl
  · rw [List.length_map, List.length_zipIdx]
  · intro cycle text report isChange isReport others reconfigured held
    have seen : text ∈ texts := by
      rcases List.mem_append.mp (List.mem_of_getElem? isChange) with first | later
      · exact List.mem_of_mem_take first
      · exact changes_subset texts later
    have shown : text ≠ "" := fun empty => filled (empty ▸ seen)
    rw [List.getElem?_map, List.getElem?_zipIdx, isChange] at isReport
    cases isReport
    refine ⟨_, perform_run assembler sandbox reconfigured rfl, ?_⟩
    rw [run_of_text _ _ held shown]
    dsimp only
    cases order.json with
    | true => exact ⟨_, by rw [Nat.zero_add]; exact printed_json .., printed_json ..⟩
    | false => exact (printed_text ..).trans (printed_text ..).symm

/-- A text that comes back is reported again, and one that is only out of sight is not. -/
theorem watch_is_run_repeated_reverted :
    let files : Files := fun _ => .error .missing
    let order : Order := ⟨.watch, "loop.wat", some 5, none, true, false⟩
    let found : List (Except ReadError String) :=
      [.error .notText, .ok "void", .error .missing, .ok "void", .ok "trap", .ok "void"]
    settingsOf files order = .ok {} ∧ .ok "" ∉ found ∧
    ∃ (watching : Settings) (reports : List String),
      perform Rehearsal.assembler Rehearsal.sandbox files order = .watching watching order ∧
      watch ⟨Rehearsal.assembler, Rehearsal.sandbox, watching⟩ true
        (FileReader.readings { path := order.file } found) = String.join reports ∧
      reports.length = 3 := by
  intro files order found
  have configured : settingsOf files order = .ok {} := rfl
  have nonempty : .ok "" ∉ found := by simp [found]
  obtain ⟨watching, reports, work, told, count, -⟩ :=
    watch_is_run_repeated Rehearsal.assembler Rehearsal.sandbox configured nonempty
  exact ⟨configured, nonempty, watching, reports, work, told, count⟩

end Console

end Rerun
