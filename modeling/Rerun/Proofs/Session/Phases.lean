import Rerun.Proofs.Cycle.Advance
import Rerun.Proofs.Session.Conservation

/-! The phases of the cycles of a session.  What is written of a cycle's advances is its
way along one of the round trips, as far as it has come. -/

namespace Rerun

variable {Handle Instance : Type}

def Outcome.isRefusal : Outcome → Bool
  | .ok _ => false
  | .error failure => failure.stage = .assembly

theorem Outcome.isOk_of_isRefusal (outcome : Outcome) (refusal : outcome.isRefusal = true) :
    outcome.isOk = false := by
  cases outcome with
  | ok value => cases refusal
  | error failure => rfl

namespace LogRecord

def traces (log : List LogRecord) : List LogRecord := log.filter (·.level = .trace)

@[simp] theorem traces_append (first second : List LogRecord) :
    traces (first ++ second) = traces first ++ traces second :=
  List.filter_append ..

end LogRecord

open LogRecord

@[simp] theorem Assembler.traces_assemble (assembler : Assembler Handle) (settings : Settings)
    (serial : Nat) (text : String) :
    traces (assembler.assemble settings serial text).log = [] := by
  simp only [assemble]
  cases assembler.parse settings.moduleName text settings.parseOptions with
  | error d => rfl
  | ok handle =>
      dsimp only
      cases assembler.encode handle <;> rfl

@[simp] theorem Standing.traces_records (standing : Standing Instance) :
    traces standing.records = [] := by
  match standing with
  | .calling rest | .instantiating size (.paused rest) | .instantiating size (.done (.error d))
  | .instantiating size (.done (.ok program)) => rfl

@[simp] theorem Setup.traces_opening (setup : Setup Handle Instance) (id : CycleId)
    (text : String) : traces (setup.opening id text).records = [] := by
  rw [opening]
  cases (setup.assembler.assemble setup.settings 0 text).binary with
  | error d => rfl
  | ok binary => exact Standing.traces_records _

namespace Progress

def phases : Progress Instance → List Phase
  | paused _ => []
  | ended outcome => [.reported outcome.isOk, .idle]

/-- The phase that a cycle was in before it got so far. -/
def Fits (phase : Phase) : Progress Instance → Prop
  | paused _ => phase = .executing
  | ended outcome => phase = if outcome.isRefusal then .failed else .executing

theorem Fits.of_mem_standings {c : Cycle} {p : Progress Instance} (fits : p.Fits c.phase)
    {entry : Cycle × Standing Instance} (member : entry ∈ p.standings c) :
    entry.1.phase = .executing := by
  cases p with
  | paused standing =>
      obtain rfl := List.mem_singleton.mp member
      exact fits
  | ended outcome => cases member

theorem fits_ofCall (rest : Pausing (Except Diagnostic Value)) :
    (ofCall rest : Progress Instance).Fits .executing := by
  match rest with
  | .paused rest | .done (.error d) | .done (.ok value) => rfl

end Progress

/-- Once a text was assembled, it is not refused any more. -/
theorem Standing.fits_next (sandbox : Sandbox Instance) (standing : Standing Instance) :
    (standing.next sandbox).Fits .executing := by
  match standing with
  | .calling rest => exact Progress.fits_ofCall rest
  | .instantiating size (.paused rest) | .instantiating size (.done (.error d)) => rfl
  | .instantiating size (.done (.ok program)) => exact Progress.fits_ofCall _

theorem Progress.Fits.filter_endings {p : Progress Instance} (fits : p.Fits .executing)
    (id : CycleId) : (p.endings id).filter (·.2.isRefusal) = [] := by
  cases p with
  | paused standing => rfl
  | ended outcome =>
      have phase : Phase.executing = if outcome.isRefusal then .failed else .executing := fits
      cases refusal : outcome.isRefusal <;> simp [Progress.endings, refusal] at phase ⊢

theorem Setup.opening_refusal (setup : Setup Handle Instance) (c : Cycle) :
    (((setup.opening c.id c.text).progress.endings c.id).filter (·.2.isRefusal)).map (·.1) =
      if setup.assembles c then [] else [c.id] := by
  rw [opening, assembles]
  cases (setup.assembler.assemble setup.settings 0 c.text).binary with
  | error d => rfl
  | ok binary =>
      have fits := (Standing.entering setup.sandbox binary).fits_next setup.sandbox
      exact congrArg (List.map _) (fits.filter_endings c.id)

theorem Setup.opening_fits (setup : Setup Handle Instance) (id : CycleId) (text : String) :
    (setup.opening id text).progress.Fits (setup.opening id text).phase := by
  rw [opening]
  cases (setup.assembler.assemble setup.settings 0 text).binary with
  | error d => rfl
  | ok binary => exact Standing.fits_next setup.sandbox _

namespace Session

open Advance

theorem advance_traces (s : Session Instance) (c : Cycle) (next : Phase) :
    traces (s.advance c next).2.log =
      traces s.log ++ [(Advance.mk c.id c.phase next).record] := by
  simp [advance, note, traces, Advance.record]

theorem report_traces (settings : Settings) (s : Session Instance) (id : CycleId)
    (outcome : Outcome) : traces (s.report settings id outcome).log = traces s.log := by
  unfold report
  split
  · simp [note, traces]
  · cases outcome <;> simp [note, traces]

theorem finish_traces (settings : Settings) (s : Session Instance) (c : Cycle)
    (outcome : Outcome) :
    traces (s.finish settings c outcome).log =
      traces s.log ++
        (along c.id [c.phase, .reported outcome.isOk, .idle]).map Advance.record := by
  simp only [finish, advance_traces, report_traces, List.append_assoc]
  rfl

theorem settle_traces (settings : Settings) (s : Session Instance) (c : Cycle)
    (p : Progress Instance) :
    traces (s.settle settings c p).log =
      traces s.log ++ (along c.id (c.phase :: p.phases)).map Advance.record := by
  cases p with
  | paused standing => exact (List.append_nil _).symm
  | ended outcome => exact finish_traces settings s c outcome

theorem opened_traces (setup : Setup Handle Instance) (s : Session Instance) (c : Cycle) :
    traces (s.opened setup c).log =
      traces s.log ++
        (along c.id [c.phase, (setup.opening c.id c.text).phase]).map Advance.record := by
  have later := setup.traces_opening c.id c.text
  simp only [opened, traces_append, Assembler.traces_assemble, List.nil_append]
  rw [List.append_cancel_left_eq, traces, List.filter_cons_of_pos rfl]
  exact congrArg _ later

theorem started_traces (s : Session Instance) {text : String}
    (changed : text ≠ s.baseline.text) :
    traces (s.started text).log =
      traces s.log ++
        (along s.nextCycle [.detecting, .assembling]).map Advance.record := by
  simp [started, detect, Baseline.observe, Ne.symm changed, note, advance, traces, along,
    Advance.record]

/-- Each cycle with the phases it has gone through. -/
def courses (s : Session Instance) : List (CycleId × List Phase) :=
  s.detected.map (fun c => (c.id, [.detecting, c.phase])) ++
  (s.suspended.map (fun entry => (entry.1.id, [.detecting, .assembling, entry.1.phase])) ++
    s.completed.map fun entry =>
      (entry.1, [.detecting, .assembling, if entry.2.isRefusal then .failed else .executing,
        .reported entry.2.isOk, .idle])) ++
  s.discarded.map fun id => (id, [.detecting, .assembling])

theorem courses_ids (s : Session Instance) : s.courses.map (·.1) = s.ids := by
  simp [courses, ids, begunIds, Function.comp_def]

theorem mem_ids_of_course {s : Session Instance} {course : CycleId × List Phase}
    (member : course ∈ s.courses) : course.1 ∈ s.ids := by
  rw [← courses_ids]
  exact List.mem_map_of_mem member

theorem mem_courses_settle {settings : Settings} {s : Session Instance} {c : Cycle}
    {p : Progress Instance} (fits : p.Fits c.phase) {course : CycleId × List Phase}
    (member : course ∈ (s.settle settings c p).courses) :
    course ∈ s.courses ∨
      course = (c.id, .detecting :: .assembling :: c.phase :: p.phases) := by
  simp only [courses, settle_detected, settle_discarded, settle_suspended, settle_completed,
    List.map_append, List.mem_append] at member ⊢
  cases p with
  | paused standing =>
      simp only [Progress.standings, Progress.endings, List.map_cons, List.map_nil,
        List.mem_singleton, List.not_mem_nil, or_false] at member
      tauto
  | ended outcome =>
      have phase : c.phase = if outcome.isRefusal then .failed else .executing := fits
      simp only [Progress.standings, Progress.endings, List.map_cons, List.map_nil,
        List.mem_singleton, List.not_mem_nil, or_false, ← phase] at member
      tauto

theorem mem_courses_dequeued {s : Session Instance} {id : CycleId}
    {course : CycleId × List Phase} (member : course ∈ (s.dequeued id).courses) :
    course ∈ s.courses := by
  have fewer := (List.filter_sublist (p := fun c : Cycle => c.id != id) (l := s.detected)).map
    fun c => (c.id, [Phase.detecting, c.phase])
  exact ((fewer.append_right _).append_right _).subset member

theorem mem_courses_awakened {s : Session Instance} {id : CycleId}
    {course : CycleId × List Phase} (member : course ∈ (s.awakened id).courses) :
    course ∈ s.courses := by
  have fewer := (List.filter_sublist (p := fun entry : Cycle × Standing Instance =>
    entry.1.id != id) (l := s.suspended)).map
      fun entry => (entry.1.id, [Phase.detecting, .assembling, entry.1.phase])
  exact (((fewer.append_right _).append_left _).append_right _).subset member

theorem Counted.course_of_dequeued {s : Session Instance} (counted : s.Counted) {c : Cycle}
    (inside : c ∈ s.detected) {course : CycleId × List Phase}
    (member : course ∈ (s.dequeued c.id).courses) : course ∈ s.courses ∧ course.1 ≠ c.id :=
  ⟨mem_courses_dequeued member,
    fun same => by
      have own := mem_ids_of_course member
      rw [same] at own
      exact counted.not_mem_dequeued inside own⟩

theorem Counted.course_of_awakened {s : Session Instance} (counted : s.Counted)
    {entry : Cycle × Standing Instance} (inside : entry ∈ s.suspended)
    {course : CycleId × List Phase} (member : course ∈ (s.awakened entry.1.id).courses) :
    course ∈ s.courses ∧ course.1 ≠ entry.1.id :=
  ⟨mem_courses_awakened member,
    fun same => by
      have own := mem_ids_of_course member
      rw [same] at own
      exact counted.not_mem_awakened inside own⟩

/-- What was written of the advances is what the session tells of its cycles. -/
structure OnTrack (s : Session Instance) (advances : List Advance) : Prop where
  logged : traces s.log = advances.map Advance.record
  unborn : ∀ id, s.nextCycle ≤ id → ofCycle id advances = []
  courses : ∀ course ∈ s.courses, ofCycle course.1 advances = along course.1 course.2
  waiting : ∀ c ∈ s.detected, c.phase = .assembling
  running : ∀ entry ∈ s.suspended, entry.1.phase = .executing

section OnTrack

variable {s t : Session Instance} {advances : List Advance}

/-- One cycle goes on along its path, and the others stay where they are. -/
theorem OnTrack.extend (track : s.OnTrack advances) {owner : CycleId}
    {path segment whole : List Phase}
    (past : ofCycle owner advances = along owner path)
    (joined : along owner path ++ along owner segment = along owner whole)
    (logged : traces t.log = traces s.log ++ (along owner segment).map Advance.record)
    (count : s.nextCycle ≤ t.nextCycle) (born : owner < t.nextCycle)
    (courses : ∀ course ∈ t.courses,
      course ∈ s.courses ∧ course.1 ≠ owner ∨ course = (owner, whole))
    (waiting : ∀ c ∈ t.detected, c.phase = .assembling)
    (running : ∀ entry ∈ t.suspended, entry.1.phase = .executing) :
    t.OnTrack (advances ++ along owner segment) := by
  have others (id : CycleId) (different : id ≠ owner) :
      ofCycle id (advances ++ along owner segment) = ofCycle id advances := by
    rw [ofCycle_append, ofCycle_along, if_neg (Ne.symm different), List.append_nil]
  refine ⟨?_, ?_, ?_, waiting, running⟩
  · rw [logged, track.logged, List.map_append]
  · intro id fresh
    rw [others id (Nat.ne_of_gt (Nat.lt_of_lt_of_le born fresh))]
    exact track.unborn id (Nat.le_trans count fresh)
  · intro course member
    rcases courses course member with ⟨before, different⟩ | rfl
    · rw [others course.1 different]
      exact track.courses course before
    · rw [ofCycle_append, ofCycle_along, if_pos rfl, past, joined]

theorem OnTrack.started (track : s.OnTrack advances) (counted : s.Counted) {text : String}
    (changed : text ≠ s.baseline.text) :
    (s.started text).OnTrack (advances ++ along s.nextCycle [.detecting, .assembling]) := by
  -- the cycle is new, so nothing was written of it
  have past : ofCycle s.nextCycle advances = along s.nextCycle [.detecting] :=
    track.unborn s.nextCycle (Nat.le_refl _)
  refine track.extend past rfl (started_traces s changed) (Nat.le_succ _) (Nat.lt_succ_self _)
    ?_ ?_ track.running
  · intro course member
    have before (old : course ∈ s.courses) : course.1 ≠ s.nextCycle :=
      Nat.ne_of_lt (counted.mem_ids.mp (mem_ids_of_course old))
    have either : course ∈ s.courses ∨ course = (s.nextCycle, [.detecting, .assembling]) := by
      simp only [Session.courses, Session.started, List.map_append, List.map_cons,
        List.map_nil, List.mem_append, List.mem_singleton] at member ⊢
      tauto
    exact either.imp_left fun old => ⟨old, before old⟩
  · intro c member
    rcases List.mem_append.mp member with old | new
    · exact track.waiting c old
    · obtain rfl := List.mem_singleton.mp new
      rfl

/-- A cycle that is thrown away had come as far as all that wait. -/
theorem OnTrack.discarded (track : s.OnTrack advances) {c : Cycle} (inside : c ∈ s.detected) :
    ({ s.dequeued c.id with discarded := s.discarded ++ [c.id] }).OnTrack advances := by
  have phase := track.waiting c inside
  refine ⟨track.logged, track.unborn, ?_, ?_, track.running⟩
  · intro course member
    apply track.courses
    rcases List.mem_append.mp member with old | thrown
    · exact mem_courses_dequeued (List.mem_append_left _ old)
    · rw [List.map_append, List.mem_append] at thrown
      rcases thrown with before | last
      · exact List.mem_append_right _ before
      · obtain rfl := List.mem_singleton.mp last
        apply List.mem_append_left
        apply List.mem_append_left
        exact List.mem_map.mpr ⟨c, inside, by rw [phase]⟩
  · intro other member
    exact track.waiting other (List.mem_of_mem_filter member)

/-- A session that has let go of one of its cycles, which is to go on. -/
structure Without (id : CycleId) (s t : Session Instance) : Prop where
  nextCycle : t.nextCycle = s.nextCycle
  born : id < s.nextCycle
  courses : ∀ course ∈ t.courses, course ∈ s.courses ∧ course.1 ≠ id
  detected : t.detected ⊆ s.detected
  suspended : t.suspended ⊆ s.suspended

theorem Counted.without_opened (counted : s.Counted) (setup : Setup Handle Instance) {c : Cycle}
    (inside : c ∈ s.detected) : Without c.id s ((s.dequeued c.id).opened setup c) where
  nextCycle := rfl
  born := counted.mem_ids.mp (mem_ids_of_detected inside)
  courses _ member := counted.course_of_dequeued inside member
  detected := List.filter_sublist.subset
  suspended := List.Subset.refl _

theorem Counted.without_resumed (counted : s.Counted) {c : Cycle} {standing : Standing Instance}
    (inside : (c, standing) ∈ s.suspended) : Without c.id s (s.resumed c standing) where
  nextCycle := rfl
  born := counted.mem_ids.mp (mem_ids_of_begun (mem_begunIds_of_suspended inside))
  courses _ member := counted.course_of_awakened inside member
  detected := List.Subset.refl _
  suspended := List.filter_sublist.subset

/-- The cycle that was let go is settled further along its path. -/
theorem OnTrack.settled (track : s.OnTrack advances) {c : Cycle} (without : Without c.id s t)
    (settings : Settings) {p : Progress Instance} (fits : p.Fits c.phase)
    {path segment : List Phase} (past : ofCycle c.id advances = along c.id path)
    (joined : along c.id path ++ along c.id segment =
      along c.id (.detecting :: .assembling :: c.phase :: p.phases))
    (logged : traces t.log ++ (along c.id (c.phase :: p.phases)).map Advance.record =
      traces s.log ++ (along c.id segment).map Advance.record) :
    (t.settle settings c p).OnTrack (advances ++ along c.id segment) := by
  refine track.extend past joined ?_ ?_ ?_ ?_ ?_ ?_
  · rw [settle_traces, logged]
  · rw [settle_nextCycle, without.nextCycle]
  · rw [settle_nextCycle, without.nextCycle]
    exact without.born
  · intro course member
    exact (mem_courses_settle fits member).imp_left (without.courses course)
  · intro other member
    rw [settle_detected] at member
    exact track.waiting other (without.detected member)
  · intro entry member
    rw [settle_suspended] at member
    rcases List.mem_append.mp member with old | new
    · exact track.running entry (without.suspended old)
    · exact fits.of_mem_standings new

theorem Effect.onTrack {setup : Setup Handle Instance} {step : Step}
    (effect : Effect setup s step t) (counted : s.Counted) (track : s.OnTrack advances) :
    ∃ more, t.OnTrack (advances ++ more) := by
  cases effect with
  | idle => exact ⟨[], by simpa using track⟩
  | started text changed => exact ⟨_, track.started counted changed⟩
  | discarded c found =>
      exact ⟨[], by simpa using track.discarded (List.mem_of_find?_eq_some found)⟩
  | begun c found =>
      have inside := List.mem_of_find?_eq_some found
      have past : ofCycle c.id advances = along c.id [.detecting, c.phase] :=
        track.courses _ (List.mem_append_left _ (List.mem_append_left _
          (List.mem_map_of_mem inside)))
      have logged := opened_traces setup (s.dequeued c.id) c
      rw [track.waiting c inside] at past logged
      let opening := setup.opening c.id c.text
      let segment := .assembling :: opening.phase :: opening.progress.phases
      have joined : along c.id [.detecting, .assembling] ++ along c.id segment =
          along c.id (.detecting :: segment) := rfl
      have without := counted.without_opened setup inside
      refine ⟨_, track.settled (c := { c with phase := opening.phase }) without setup.settings
        (setup.opening_fits c.id c.text) past joined ?_⟩
      rw [logged, List.append_assoc, ← List.map_append]
      rfl
  | resumed c standing found =>
      have inside := List.mem_of_find?_eq_some found
      have fits : (standing.next setup.sandbox).Fits c.phase :=
        track.running (c, standing) inside ▸ standing.fits_next setup.sandbox
      have past : ofCycle c.id advances = along c.id [.detecting, .assembling, c.phase] :=
        track.courses _ (List.mem_append_left _ (List.mem_append_right _
          (List.mem_append_left _ (List.mem_map_of_mem inside))))
      let segment := c.phase :: (standing.next setup.sandbox).phases
      have joined : along c.id [.detecting, .assembling, c.phase] ++ along c.id segment =
          along c.id (.detecting :: .assembling :: segment) := rfl
      refine ⟨_, track.settled (counted.without_resumed inside) setup.settings fits past joined
        ?_⟩
      rw [Session.resumed, traces_append, standing.traces_records, List.append_nil]

theorem OnTrack.isPath (track : s.OnTrack advances) :
    ∀ course ∈ s.courses, Phase.IsPath course.2 := by
  have waits : ∀ c ∈ s.detected, Phase.IsPath [.detecting, c.phase] := by
    intro c member
    rw [track.waiting c member]
    decide
  have runs : ∀ entry ∈ s.suspended,
      Phase.IsPath [.detecting, .assembling, entry.1.phase] := by
    intro entry member
    rw [track.running entry member]
    decide
  have ends : ∀ outcome : Outcome, Phase.IsPath [.detecting, .assembling,
      if outcome.isRefusal then .failed else .executing, .reported outcome.isOk, .idle] := by
    intro outcome
    have either : ∀ refusal success : Bool, (refusal = true → success = false) →
        Phase.IsPath [.detecting, .assembling, if refusal then .failed else .executing,
          .reported success, .idle] := by decide
    exact either outcome.isRefusal outcome.isOk outcome.isOk_of_isRefusal
  simp only [Session.courses, List.forall_mem_append, List.forall_mem_map]
  exact ⟨⟨waits, runs, fun entry _ => ends entry.2⟩, fun _ _ => by decide⟩

theorem OnTrack.isLegal (track : s.OnTrack advances) (counted : s.Counted) :
    ∀ a ∈ advances, a.isLegal := by
  intro a member
  have own : a ∈ ofCycle a.cycle advances := List.mem_filter.mpr ⟨member, beq_self_eq_true _⟩
  by_cases born : a.cycle < s.nextCycle
  · have known := counted.mem_ids.mpr born
    rw [← courses_ids] at known
    obtain ⟨course, inside, same⟩ := List.mem_map.mp known
    rw [← same, track.courses course inside] at own
    exact isLegal_of_mem_along (track.isPath course inside) own
  · rw [track.unborn a.cycle (Nat.le_of_not_lt born)] at own
    cases own

end OnTrack

theorem play_onTrack (settings : Settings) (moves : List (Move Handle Instance)) :
    ∃ advances, (play settings moves).OnTrack advances := by
  induction moves using List.reverseRecOn with
  | nil => exact ⟨[], rfl, fun _ _ => rfl, by simp [courses], by simp, by simp⟩
  | append_singleton moves m ih =>
      obtain ⟨advances, track⟩ := ih
      have effect := step_effect (m.setup settings) (play settings moves) m.step
      obtain ⟨more, onward⟩ := effect.onTrack (play_counted settings moves) track
      rw [play_concat]
      exact ⟨advances ++ more, onward⟩

def refusedIds (s : Session Instance) : List CycleId :=
  (s.completed.filter (·.2.isRefusal)).map (·.1)

theorem settle_refusedIds (settings : Settings) (s : Session Instance) (c : Cycle)
    (p : Progress Instance) :
    (s.settle settings c p).refusedIds =
      s.refusedIds ++ ((p.endings c.id).filter (·.2.isRefusal)).map (·.1) := by
  rw [refusedIds, settle_completed, List.filter_append, List.map_append]
  rfl

theorem step_refusedIds (setup : Setup Handle Instance) (s : Session Instance) (step : Step) :
    (s.step setup step).refusedIds =
      s.refusedIds ++ (s.refused? setup step).toList.map (·.id) := by
  cases step with
  | detect reading =>
      rcases s.detect_cases reading with ⟨-, nothing⟩ | ⟨text, -, -, created⟩
      · simp [Session.step, nothing, refused?, begun?]
      · simp only [Session.step, created]
        exact (List.append_nil _).symm
  | begin id =>
      cases found : s.detected.find? (·.id == id) with
      | none => simp [Session.step, begin, refused?, begun?, found]
      | some c =>
          obtain rfl : c.id = id := by simpa using List.find?_some found
          simp only [Session.step, begin, found, launch_eq, settle_refusedIds,
            setup.opening_refusal, refused?, begun?, Option.filter_some]
          cases setup.assembles c <;> rfl
  | resume id =>
      cases found : s.suspended.find? (·.1.id == id) with
      | none => simp [Session.step, resume, refused?, begun?, found]
      | some entry =>
          have fits := entry.2.fits_next setup.sandbox
          simp only [Session.step, resume, found, proceed_eq, settle_refusedIds,
            fits.filter_endings]
          rfl
  | discard id =>
      cases found : s.detected.find? (·.id == id) <;>
        simp [Session.step, discard, refused?, begun?, found, refusedIds]

theorem play_refusedIds (settings : Settings) (moves : List (Move Handle Instance)) :
    (play settings moves).refusedIds = (refusals settings {} moves).map (·.id) := by
  induction moves using List.reverseRecOn with
  | nil => rfl
  | append_singleton moves m ih =>
      have here : moves.foldl (move settings) {} = play settings moves := rfl
      rw [play_concat, refusals_concat, List.map_append, here, ← ih]
      exact step_refusedIds (m.setup settings) _ m.step

/-- What was written tells the advances of a run, and each of them is allowed.  A cycle
that waits is assembling, one that is suspended executes, and one that is completed was
refused or was executed and is idle again, whether its report was delivered or not; those
that were refused are those that were begun in vain.  The paths from idle to idle that the
phases allow are the round trips one after another. -/
theorem cycles_keep_to_their_phases (settings : Settings)
    (moves : List (Move Handle Instance)) :
    let s := play settings moves
    (∃ advances : List Advance,
      (∀ others, traces s.log = others.map Advance.record ↔ others = advances) ∧
      (∀ a ∈ advances, a.isLegal) ∧
      (∀ c ∈ s.detected, c.phase = .assembling ∧
        ofCycle c.id advances = along c.id [.detecting, .assembling]) ∧
      (∀ id ∈ s.discarded, ofCycle id advances = along id [.detecting, .assembling]) ∧
      (∀ entry ∈ s.suspended, entry.1.phase = .executing ∧
        ofCycle entry.1.id advances =
          along entry.1.id [.detecting, .assembling, .executing]) ∧
      ∀ entry ∈ s.completed,
        ofCycle entry.1 advances =
          along entry.1 (.detecting :: .assembling ::
            if entry.2.isRefusal then [.failed, .reported false, .idle]
            else [.executing, .reported entry.2.isOk, .idle])) ∧
    s.ids.Perm (List.range s.nextCycle) ∧
    s.refusedIds = (refusals settings {} moves).map (·.id) ∧
    ∀ path, Phase.IsCircuit path ↔ ∃ trips, path = RoundTrip.joined trips := by
  intro s
  obtain ⟨advances, track⟩ := play_onTrack settings moves
  have counted := play_counted settings moves
  have went : ∀ course ∈ s.courses, ofCycle course.1 advances = along course.1 course.2 :=
    track.courses
  simp only [Session.courses, List.forall_mem_append, List.forall_mem_map] at went
  obtain ⟨⟨waits, runs, ends⟩, thrown⟩ := went
  refine ⟨⟨advances, ?_, track.isLegal counted, ?_, thrown, ?_, ?_⟩, counted,
    play_refusedIds settings moves, Phase.isCircuit_iff⟩
  · intro others
    rw [track.logged, (List.map_injective_iff.mpr record_injective).eq_iff]
    exact eq_comm
  · intro c member
    have phase := track.waiting c member
    exact ⟨phase, phase ▸ waits c member⟩
  · intro entry member
    have phase := track.running entry member
    exact ⟨phase, phase ▸ runs entry member⟩
  · intro entry member
    have course := ends entry member
    obtain ⟨id, outcome⟩ := entry
    cases refusal : outcome.isRefusal with
    | false => simpa [refusal] using course
    | true =>
        simpa [refusal, outcome.isOk_of_isRefusal refusal] using course

end Session

end Rerun
