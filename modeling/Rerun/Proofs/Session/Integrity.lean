import Rerun.Proofs.Session.Isolation
import Rerun.Proofs.Session.Trial

/-! Outcomes over whole runs: whatever happens around it, a cycle goes through the trial
of its own text. -/

namespace Rerun

variable {Handle Instance : Type}

/-- What the assembler is asked for in a call: a module name, a text and options. -/
def Call.parsed? : Call → Option (String × String × ParseOptions)
  | parse name text options _ => some (name, text, options)
  | _ => none

theorem Call.filterMap_parsed?_eq_nil {id : CycleId} {calls : List Call}
    (sandbox : ∀ call ∈ calls, call.cycle? = some id) : calls.filterMap parsed? = [] := by
  apply List.filterMap_eq_nil_iff.mpr
  intro call member
  have own := sandbox call member
  cases call with
  | parse name text options handle => cases own
  | _ => rfl

def Settings.request (settings : Settings) (text : String) : String × String × ParseOptions :=
  (settings.moduleName, text, settings.parseOptions)

theorem Assembler.filterMap_parsed? (assembler : Assembler Handle) (settings : Settings)
    (serial : Nat) (text : String) :
    (assembler.assemble settings serial text).calls.filterMap Call.parsed? =
      [settings.request text] := by
  simp only [assemble]
  cases assembler.parse settings.moduleName text settings.parseOptions with
  | error d => rfl
  | ok handle =>
      dsimp only
      cases assembler.encode handle <;> rfl

namespace Session

/-- With the calls already made for it and what it has still to do, a cycle goes through
its trial. -/
structure OnCourse (setup : Setup Handle Instance) (calls : List Call) (id : CycleId)
    (text : String) (rest : Execution) : Prop where
  outcome : rest.outcome = (setup.trial id text).outcome
  calls : Call.ofCycle id calls ++ rest.calls = (setup.trial id text).calls

/-- Every cycle has its own text and is on course with it. -/
structure Faithful (setup : Setup Handle Instance) (texts : List String)
    (s : Session Instance) : Prop where
  unborn : ∀ id, s.nextCycle ≤ id → Call.ofCycle id s.calls = []
  discarded : ∀ id ∈ s.discarded, Call.ofCycle id s.calls = []
  waiting : ∀ c ∈ s.detected,
    texts[c.id]? = some c.text ∧ Call.ofCycle c.id s.calls = []
  suspended : ∀ entry ∈ s.suspended,
    texts[entry.1.id]? = some entry.1.text ∧
    OnCourse setup s.calls entry.1.id entry.1.text (entry.2.remainder setup.sandbox entry.1.id)
  completed : ∀ entry ∈ s.completed,
    ∃ text, texts[entry.1]? = some text ∧ OnCourse setup s.calls entry.1 text ⟨entry.2, [], []⟩

variable {setup : Setup Handle Instance} {texts : List String} {s t : Session Instance}

theorem OnCourse.congr {calls others : List Call} {id : CycleId} {text : String}
    {rest : Execution} (onCourse : OnCourse setup calls id text rest)
    (same : Call.ofCycle id others = Call.ofCycle id calls) :
    OnCourse setup others id text rest :=
  ⟨onCourse.outcome, same ▸ onCourse.calls⟩

/-- A session stays faithful when cycles are taken out of it and calls are made for none
of those that stay. -/
theorem Faithful.mono (faithful : Faithful setup texts s)
    (count : t.nextCycle = s.nextCycle) (discarded : t.discarded ⊆ s.discarded)
    (detected : t.detected ⊆ s.detected) (suspended : t.suspended ⊆ s.suspended)
    (completed : t.completed ⊆ s.completed)
    (same : ∀ id, id ∈ t.ids ∨ t.nextCycle ≤ id →
      Call.ofCycle id t.calls = Call.ofCycle id s.calls) :
    Faithful setup texts t := by
  have held (id : CycleId) (member : id ∈ t.ids) := same id (.inl member)
  refine ⟨?_, ?_, ?_, ?_, ?_⟩
  · intro id fresh
    exact (same id (.inr fresh)).trans (faithful.unborn id (count ▸ fresh))
  · intro id member
    exact (held id (List.mem_append_right _ member)).trans
      (faithful.discarded id (discarded member))
  · intro c member
    obtain ⟨own, uncalled⟩ := faithful.waiting c (detected member)
    exact ⟨own, (held c.id (mem_ids_of_detected member)).trans uncalled⟩
  · intro entry member
    obtain ⟨own, onCourse⟩ := faithful.suspended entry (suspended member)
    have begun := mem_ids_of_begun (mem_begunIds_of_suspended member)
    exact ⟨own, onCourse.congr (held entry.1.id begun)⟩
  · intro entry member
    obtain ⟨text, own, onCourse⟩ := faithful.completed entry (completed member)
    have begun := mem_ids_of_begun (mem_begunIds_of_completed member)
    exact ⟨text, own, onCourse.congr (held entry.1 begun)⟩

theorem Faithful.settle (faithful : Faithful setup texts s) (settings : Settings)
    {c : Cycle} {p : Progress Instance} (own : texts[c.id]? = some c.text)
    (onCourse : OnCourse setup s.calls c.id c.text (p.remainder setup.sandbox c.id)) :
    Faithful setup texts (s.settle settings c p) := by
  constructor <;> simp only [settle_calls, settle_nextCycle, settle_discarded,
    settle_detected, settle_suspended, settle_completed]
  · exact faithful.unborn
  · exact faithful.discarded
  · exact faithful.waiting
  · intro entry member
    rcases List.mem_append.mp member with before | added
    · exact faithful.suspended entry before
    · cases p with
      | ended outcome => cases added
      | paused standing =>
          obtain rfl : entry = (c, standing) := List.mem_singleton.mp added
          exact ⟨own, onCourse⟩
  · intro entry member
    rcases List.mem_append.mp member with before | added
    · exact faithful.completed entry before
    · cases p with
      | paused standing => cases added
      | ended outcome =>
          obtain rfl : entry = (c.id, outcome) := List.mem_singleton.mp added
          exact ⟨c.text, own, onCourse⟩

private theorem getElem?_concat_of_some {texts : List String} {id : Nat} {text : String}
    (found : texts[id]? = some text) (later : List String) :
    (texts ++ later)[id]? = some text := by
  obtain ⟨bound, -⟩ := List.getElem?_eq_some_iff.mp found
  rw [List.getElem?_append_left bound, found]

theorem Faithful.extend (faithful : Faithful setup texts s) (later : List String) :
    Faithful setup (texts ++ later) s := by
  refine ⟨faithful.unborn, faithful.discarded, ?_, ?_, ?_⟩
  · intro c member
    obtain ⟨own, uncalled⟩ := faithful.waiting c member
    exact ⟨getElem?_concat_of_some own later, uncalled⟩
  · intro entry member
    obtain ⟨own, onCourse⟩ := faithful.suspended entry member
    exact ⟨getElem?_concat_of_some own later, onCourse⟩
  · intro entry member
    obtain ⟨text, own, onCourse⟩ := faithful.completed entry member
    exact ⟨text, getElem?_concat_of_some own later, onCourse⟩

theorem Faithful.started (faithful : Faithful setup texts s)
    (count : s.nextCycle = texts.length) (text : String) :
    Faithful setup (texts ++ [text]) (s.started text) := by
  have before := faithful.extend [text]
  refine ⟨?_, before.discarded, ?_, before.suspended, before.completed⟩
  · intro id fresh
    exact before.unborn id (Nat.le_of_succ_le fresh)
  · intro c member
    rcases List.mem_append.mp member with waiting | added
    · exact before.waiting c waiting
    · obtain rfl := List.mem_singleton.mp added
      refine ⟨?_, faithful.unborn s.nextCycle (Nat.le_refl _)⟩
      simp [count]

theorem Faithful.opened (faithful : Faithful setup texts s) (counted : s.Counted) {c : Cycle}
    (member : c ∈ s.detected) : Faithful setup texts ((s.dequeued c.id).opened setup c) := by
  have bound := counted.mem_ids.mp (mem_ids_of_detected member)
  -- the calls are for the one cycle that no list holds any more
  refine faithful.mono rfl (List.Subset.refl s.discarded) List.filter_sublist.subset
    (List.Subset.refl s.suspended) (List.Subset.refl s.completed) ?_
  intro id held
  have different : c.id ≠ id := by
    rintro rfl
    exact held.elim (counted.not_mem_dequeued member) (Nat.not_le_of_lt bound)
  simp [Session.opened, dequeued, setup.ofCycle_opening_calls, different]

theorem Faithful.resumed (faithful : Faithful setup texts s) (counted : s.Counted)
    {c : Cycle} {standing : Standing Instance} (member : (c, standing) ∈ s.suspended) :
    Faithful setup texts (s.resumed c standing) := by
  have bound := counted.mem_ids.mp (mem_ids_of_begun (mem_begunIds_of_suspended member))
  refine faithful.mono rfl (List.Subset.refl s.discarded) (List.Subset.refl s.detected)
    List.filter_sublist.subset (List.Subset.refl s.completed) ?_
  intro id held
  have different : c.id ≠ id := by
    rintro rfl
    exact held.elim (counted.not_mem_awakened member) (Nat.not_le_of_lt bound)
  simp [Session.resumed, awakened, standing.ofCycle_calls, different]

theorem Effect.faithful {step : Step} (effect : Effect setup s step t) (counted : s.Counted)
    (faithful : Faithful setup texts s) (count : s.nextCycle = texts.length)
    {more : List String}
    (read : more = (step.text?.filter (· ≠ s.baseline.text)).toList) :
    Faithful setup (texts ++ more) t := by
  have before := faithful.extend more
  cases effect with
  | idle => exact before
  | started text changed =>
      obtain rfl : more = [text] := by
        simpa [Step.text?, Option.filter_some, changed] using read
      exact faithful.started count text
  | discarded c found =>
      have member := List.mem_of_find?_eq_some found
      refine ⟨before.unborn, ?_, ?_, before.suspended, before.completed⟩
      · intro id thrown
        rcases List.mem_append.mp thrown with earlier | now
        · exact before.discarded id earlier
        · obtain rfl := List.mem_singleton.mp now
          exact (before.waiting c member).2
      · intro other waiting
        exact before.waiting other (List.mem_filter.mp waiting).1
  | begun c found =>
      have member := List.mem_of_find?_eq_some found
      obtain ⟨own, uncalled⟩ := before.waiting c member
      have trial := setup.opening_trial c.id c.text
      have outcome := congrArg Execution.outcome trial
      refine (before.opened counted member).settle setup.settings own ⟨outcome, ?_⟩
      rw [← congrArg Execution.calls trial]
      simp [Session.opened, dequeued, setup.ofCycle_opening_calls, uncalled, Execution.after]
  | resumed c standing found =>
      have member := List.mem_of_find?_eq_some found
      obtain ⟨own, onCourse⟩ := before.suspended (c, standing) member
      have next := standing.next_remainder setup.sandbox c.id
      have outcome := (congrArg Execution.outcome next).trans onCourse.outcome
      refine (before.resumed counted member).settle setup.settings own ⟨outcome, ?_⟩
      rw [← onCourse.calls, ← congrArg Execution.calls next]
      simp [Session.resumed, standing.ofCycle_calls, Execution.after]

theorem run_faithful (setup : Setup Handle Instance) (steps : List Step) :
    Faithful setup (Step.textsStarted steps) (run setup steps) := by
  induction steps using List.reverseRecOn with
  | nil =>
      refine ⟨fun _ _ => rfl, ?_, ?_, ?_, ?_⟩ <;> intro _ member <;> cases member
  | append_singleton steps step ih =>
      have follows := run_follows setup steps
      rw [run_concat, Step.textsStarted_concat]
      refine (step_effect setup _ step).faithful (run_counted setup steps) ih follows.count ?_
      rw [follows.baseline]

/-- A completed cycle has the outcome that its own text has without a session. -/
theorem completed_reference (setup : Setup Handle Instance) (steps : List Step)
    {entry : CycleId × Outcome} (member : entry ∈ (run setup steps).completed) :
    ∃ text, (Step.textsStarted steps)[entry.1]? = some text ∧
      entry.2 = reference setup.assembler setup.sandbox setup.settings text := by
  obtain ⟨text, own, onCourse⟩ := (run_faithful setup steps).completed entry member
  exact ⟨text, own, onCourse.outcome.trans (setup.trial_outcome entry.1 text)⟩

theorem Faithful.countP_isMain (faithful : Faithful setup texts s) (counted : s.Counted)
    (id : CycleId) : (Call.ofCycle id s.calls).countP Call.isMain ≤ 1 := by
  have idle (uncalled : Call.ofCycle id s.calls = []) :
      (Call.ofCycle id s.calls).countP Call.isMain ≤ 1 := by simp [uncalled]
  have trying {text : String} {rest : Execution}
      (onCourse : OnCourse setup s.calls id text rest) :
      (Call.ofCycle id s.calls).countP Call.isMain ≤ 1 := by
    have bound := setup.trial_countP_isMain id text
    rw [← onCourse.calls, List.countP_append] at bound
    omega
  by_cases fresh : s.nextCycle ≤ id
  · exact idle (faithful.unborn id fresh)
  · have held := counted.mem_ids.mpr (Nat.lt_of_not_le fresh)
    simp only [ids, begunIds, List.mem_append, List.mem_map] at held
    rcases held with (⟨c, waiting, rfl⟩ | ⟨entry, held, rfl⟩ | ⟨entry, ended, rfl⟩) | thrown
    · exact idle (faithful.waiting c waiting).2
    · exact trying (faithful.suspended entry held).2
    · obtain ⟨text, own, onCourse⟩ := faithful.completed entry ended
      exact trying onCourse
    · exact idle (faithful.discarded id thrown)

/-- The assembler is asked once for each cycle that has begun, with the cycle's own text. -/
def Asked (settings : Settings) (texts : List String) (s : Session Instance) : Prop :=
  ((s.calls.filterMap Call.parsed?).map some).Perm
    (s.begunIds.map fun id => texts[id]?.map settings.request)

theorem Faithful.getElem?_of_begun (faithful : Faithful setup texts s) {id : CycleId}
    (begun : id ∈ s.begunIds) : ∃ text, texts[id]? = some text := by
  simp only [begunIds, List.mem_append, List.mem_map] at begun
  rcases begun with ⟨entry, held, rfl⟩ | ⟨entry, ended, rfl⟩
  · exact ⟨_, (faithful.suspended entry held).1⟩
  · obtain ⟨text, own, onCourse⟩ := faithful.completed entry ended
    exact ⟨text, own⟩

theorem Asked.extend {settings : Settings} (asked : Asked settings texts s)
    (faithful : Faithful setup texts s) (later : List String) :
    Asked settings (texts ++ later) s := by
  have same : s.begunIds.map (fun id => (texts ++ later)[id]?.map settings.request) =
      s.begunIds.map (fun id => texts[id]?.map settings.request) := by
    apply List.map_congr_left
    intro id begun
    obtain ⟨text, own⟩ := faithful.getElem?_of_begun begun
    rw [own, getElem?_concat_of_some own later]
  rw [Asked, same]
  exact asked

theorem Effect.asked {step : Step} (effect : Effect setup s step t) (counted : s.Counted)
    (faithful : Faithful setup texts s) (asked : Asked setup.settings texts s)
    (more : List String) : Asked setup.settings (texts ++ more) t := by
  have before := asked.extend faithful more
  cases effect with
  | idle => exact before
  | started text changed => exact before
  | discarded c found => exact before
  | begun c found =>
      have member := List.mem_of_find?_eq_some found
      have own := ((faithful.extend more).waiting c member).1
      have begun := settle_begunIds_perm setup.settings ((s.dequeued c.id).opened setup c)
        { c with phase := (setup.opening c.id c.text).phase }
        (setup.opening c.id c.text).progress
      have sandbox := Call.filterMap_parsed?_eq_nil (setup.opening_calls_cycle? c.id c.text)
      refine List.Perm.trans ?_ (begun.map _).symm
      simp only [settle_calls, Session.opened, dequeued, List.filterMap_append, sandbox,
        setup.assembler.filterMap_parsed?, List.append_nil, List.map_append, List.map_cons,
        List.map_nil, own, Option.map_some]
      exact (List.perm_append_singleton _ _).trans (before.cons _)
  | resumed c standing found =>
      have member := List.mem_of_find?_eq_some found
      have begun := (settle_begunIds_perm setup.settings (s.resumed c standing) c
        (standing.next setup.sandbox)).trans (counted.awakened_begunIds_perm member).symm
      have sandbox := Call.filterMap_parsed?_eq_nil (standing.calls_cycle? c.id)
      refine List.Perm.trans ?_ (begun.map _).symm
      simp only [settle_calls, Session.resumed, awakened, List.filterMap_append, sandbox,
        List.append_nil]
      exact before

theorem run_asked (setup : Setup Handle Instance) (steps : List Step) :
    Asked setup.settings (Step.textsStarted steps) (run setup steps) := by
  induction steps using List.reverseRecOn with
  | nil => exact List.Perm.refl []
  | append_singleton steps step ih =>
      rw [run_concat, Step.textsStarted_concat]
      exact (step_effect setup _ step).asked (run_counted setup steps)
        (run_faithful setup steps) ih _

/-- The outcome of a completed cycle is the verdict on its own text, with the stage and the
diagnostic of the failure.  It is the same in every run, and steps that name other cycles
have no influence on anything that is held of a cycle. -/
theorem outcome_is_the_verdict (setup : Setup Handle Instance) (steps : List Step) :
    let s := run setup steps
    let texts := Step.textsStarted steps
    (∀ id outcome, (id, outcome) ∈ s.completed →
      ∃ text, texts[id]? = some text ∧
        setup.Verdict id text outcome (Call.ofCycle id s.calls)) ∧
    (∀ id, (Call.ofCycle id s.calls).countP Call.isMain ≤ 1) ∧
    ((s.calls.filterMap Call.parsed?).map some).Perm
      (s.begunIds.map fun id => texts[id]?.map fun text =>
        (setup.settings.moduleName, text, setup.settings.parseOptions)) ∧
    ∀ others : List Step,
      let t := run setup others
      (∀ id outcome other otherOutcome,
        (id, outcome) ∈ s.completed → (other, otherOutcome) ∈ t.completed →
        texts[id]? = (Step.textsStarted others)[other]? → outcome = otherOutcome) ∧
      ∀ id, others.filter (·.concerns id) = steps.filter (·.concerns id) →
        t.only id = s.only id := by
  intro s texts
  have faithful := run_faithful setup steps
  refine ⟨?_, faithful.countP_isMain (run_counted setup steps), run_asked setup steps, ?_⟩
  · intro id outcome member
    obtain ⟨text, own, onCourse⟩ := faithful.completed (id, outcome) member
    refine ⟨text, own, ?_⟩
    have calls := onCourse.calls
    rw [List.append_nil] at calls
    have verdict := setup.trial_verdict id text
    rw [← onCourse.outcome, ← calls] at verdict
    exact verdict
  · intro others t
    constructor
    · intro id outcome other otherOutcome member otherMember sameText
      obtain ⟨text, own, rfl⟩ := completed_reference setup steps member
      obtain ⟨otherText, otherOwn, rfl⟩ := completed_reference setup others otherMember
      rw [own, otherOwn, Option.some.injEq] at sameText
      rw [sameText]
    · intro id sameSteps
      rw [run_only_filter, sameSteps, ← run_only_filter]

/-- Parties that take any text but the empty one. -/
def refusing : Setup String Unit :=
  { Setup.leisurely .lastCompleted with
    assembler :=
      ⟨fun _ text _ => if text = "" then .error (.plain "nothing to parse") else .ok text,
        fun text => .ok text.toUTF8⟩ }

/-- The two cycles overlap, and the later one fails. -/
def overlapping : List Step :=
  [.detect (some "a"), .detect (some ""), .begin 0, .begin 1, .resume 0]

theorem outcome_is_the_verdict_overlapping :
    let s := run refusing overlapping
    let alone := run refusing [.detect (some "a"), .detect (some ""), .begin 0, .resume 0]
    s.completed = [(1, .error ⟨.assembly, .plain "nothing to parse"⟩), (0, .ok .void)] ∧
    refusing.Verdict 0 "a" (.ok .void) (Call.ofCycle 0 s.calls) ∧
    refusing.Verdict 1 "" (.error ⟨.assembly, .plain "nothing to parse"⟩)
      (Call.ofCycle 1 s.calls) ∧
    alone.only 0 = s.only 0 := by
  have completed : (run refusing overlapping).completed =
      [(1, .error ⟨.assembly, .plain "nothing to parse"⟩), (0, .ok .void)] := rfl
  obtain ⟨verdict, -, -, isolated⟩ := outcome_is_the_verdict refusing overlapping
  obtain ⟨first, ownFirst, ofFirst⟩ := verdict 0 (.ok .void) (by simp [completed])
  obtain ⟨second, ownSecond, ofSecond⟩ :=
    verdict 1 (.error ⟨.assembly, .plain "nothing to parse"⟩) (by simp [completed])
  obtain rfl : first = "a" := (Option.some.inj ownFirst).symm
  obtain rfl : second = "" := (Option.some.inj ownSecond).symm
  exact ⟨completed, ofFirst, ofSecond, (isolated _).2 0 (by decide)⟩

end Session

end Rerun
