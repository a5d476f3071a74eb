import Rerun.Proofs.Desk.Run
import Rerun.Proofs.Session.Delivery
import Rerun.Proofs.Session.Integrity

/-! A desk at rest.  When no cycle waits and none is suspended, the screen shows what
the text that was last read comes to without a session. -/

namespace Rerun

variable {Handle Instance : Type}

namespace Session

def Quiet (s : Session Instance) : Prop := s.detected = [] ∧ s.suspended = []

/-- Late reports are dropped, or no completion is late. -/
def Timely (settings : Settings) (s : Session Instance) : Prop :=
  settings.reportPolicy = .latestStarted ∨ (s.completed.map (·.1)).Pairwise (· < ·)

theorem Quiet.completed_perm {s : Session Instance} (quiet : s.Quiet) (counted : s.Counted)
    (kept : s.discarded = []) : (s.completed.map (·.1)).Perm (List.range s.nextCycle) := by
  simpa [Counted, ids, begunIds, quiet.1, quiet.2, kept] using counted

theorem Reported.delivered_eq_leaders {settings : Settings} {s : Session Instance}
    (reported : s.Reported settings) (timely : s.Timely settings) :
    s.delivered = leaders s.completed := by
  rw [reported.delivered]
  cases policy : settings.reportPolicy with
  | latestStarted => rfl
  | lastCompleted =>
      have increasing := timely.resolve_left (by simp [policy])
      exact (leaders_eq_self increasing).symm

end Session

/-- Of all completions of the first cycles, the newest is that of the last cycle. -/
theorem Completion.IsNewest.eq_of_perm_range {entries : List Completion}
    {newest : Completion} (isNewest : IsNewest entries newest) {count : Nat}
    (all : (entries.map Prod.fst).Perm (List.range (count + 1))) : newest.1 = count := by
  have bound : newest.1 < count + 1 :=
    List.mem_range.mp (all.mem_iff.mp (List.mem_map_of_mem isNewest.member))
  obtain ⟨last, member, same⟩ :=
    List.mem_map.mp (all.mem_iff.mpr (List.mem_range.mpr (Nat.lt_succ_self count)))
  by_cases isLast : last = newest
  · rw [← isLast, same]
  · have below : count < newest.1 := same ▸ isNewest.above last member isLast
    exact absurd below (Nat.not_lt_of_le (Nat.le_of_lt_succ bound))

namespace Session

theorem run_delivered_eq_nil (setup : Setup Handle Instance) {steps : List Step}
    (counts : (run setup steps).nextCycle = 0) : (run setup steps).delivered = [] := by
  have reported := run_reported setup steps
  have counted := run_counted setup steps
  have nothing : (run setup steps).completed = [] := by
    apply List.eq_nil_iff_forall_not_mem.mpr
    intro entry member
    have bound := counted.mem_ids.mp (mem_ids_of_begun (mem_begunIds_of_completed member))
    exact Nat.not_lt_zero _ (counts ▸ bound)
  rw [reported.delivered, nothing]
  cases setup.settings.reportPolicy <;> rfl

/-- The baseline is the text of the last cycle. -/
theorem run_last_text (setup : Setup Handle Instance) {steps : List Step} {count : Nat}
    (counts : (run setup steps).nextCycle = count + 1) :
    (Step.textsStarted steps)[count]? = some (run setup steps).baseline.text := by
  have follows := run_follows setup steps
  have length : (Step.textsStarted steps).length = count + 1 := follows.count.symm.trans counts
  have nonempty : Step.textsStarted steps ≠ [] := List.ne_nil_of_length_eq_add_one length
  rw [follows.baseline, ← Step.textsStarted_getLast? nonempty, List.getLast?_eq_getElem?, length]
  rfl

theorem quiet_run_last_delivered (setup : Setup Handle Instance) {steps : List Step}
    (kept : ∀ id, .discard id ∉ steps) (quiet : (run setup steps).Quiet)
    (timely : (run setup steps).Timely setup.settings) {count : Nat}
    (counts : (run setup steps).nextCycle = count + 1) :
    (run setup steps).delivered.getLast? =
      some (count, reference setup.assembler setup.sandbox setup.settings
        (run setup steps).baseline.text) := by
  have counted := run_counted setup steps
  have reported := run_reported setup steps
  -- at rest every cycle is completed, so the newest completion is that of the last cycle
  have all := quiet.completed_perm counted (run_discarded_eq_nil setup kept)
  rw [counts] at all
  rw [reported.delivered_eq_leaders timely]
  cases final : (leaders (run setup steps).completed).getLast? with
  | none =>
      have nothing := (leaders_eq_nil_iff _).mp (List.getLast?_eq_none_iff.mp final)
      rw [nothing] at all
      have length := all.length_eq
      simp at length
  | some newest =>
      have isNewest := leaders_getLast?_newest counted.completed_nodup final
      have last : newest.1 = count := isNewest.eq_of_perm_range all
      obtain ⟨text, own, outcome⟩ := completed_reference setup steps isNewest.member
      rw [last, run_last_text setup counts, Option.some.injEq] at own
      rw [own, ← outcome, ← last]

end Session

namespace Desk

/-- An action that leaves the text on the board as it is. -/
def Action.keeps (text : String) : Action → Bool
  | .write other => other == text
  | _ => true

theorem reading?_eq_board {d : Desk Instance} {a : Action} {text : String}
    (read : d.reading? a = some text) : text = d.board.text := by
  have shown (seen : d.board.read = some text) : text = d.board.text := by
    simp only [Board.read] at seen
    split at seen
    · exact (Option.some.inj seen).symm
    · cases seen
  cases a with
  | fire =>
      simp only [reading?] at read
      split at read
      · exact shown read
      · cases read
  | tick => exact shown read
  | _ => cases read

theorem act_board_text (setup : Setup Handle Instance) {d : Desk Instance} {a : Action}
    (keeps : a.keeps d.board.text) : (d.act setup a).board.text = d.board.text := by
  cases a with
  | write text => exact beq_iff_eq.mp keeps
  | _ => rfl

theorem textsRead_steps (setup : Setup Handle Instance) (d : Desk Instance) (a : Action) :
    Step.textsRead (d.steps setup a) = (d.reading? a).toList := by
  have waiting (s : Session Instance) : Step.textsRead (begins s) = [] := by
    simp [Step.textsRead, begins, Step.text?]
  cases a with
  | fire =>
      cases armed : d.ticker.frames.isArmed with
      | false => simp [steps, reading?, armed, Step.textsRead]
      | true =>
          simp only [steps, reading?, armed, if_true]
          cases d.board.read <;> rfl
  | tick =>
      simp only [steps, reading?]
      cases d.board.read <;> rfl
  | run => exact waiting d.ticker.session
  | release index =>
      simp only [steps, reading?]
      cases d.ticker.session.heldAt index with
      | none => exact waiting d.ticker.session
      | some id => exact waiting (d.ticker.session.resume setup id)
  | _ => rfl

theorem act_baseline (setup : Setup Handle Instance) (d : Desk Instance) (a : Action) :
    (d.act setup a).ticker.session.baseline.text =
      (d.reading? a).getD d.ticker.session.baseline.text := by
  rw [act_session, Session.foldl_baseline, textsRead_steps]
  cases d.reading? a <;> rfl

/-- The text on the board is the one that was last read. -/
def Seen (d : Desk Instance) : Prop := d.ticker.session.baseline.text = d.board.text

theorem act_seen_of_reading (setup : Setup Handle Instance) {d : Desk Instance} {a : Action}
    (read : (d.reading? a).isSome) :
    (d.act setup a).Seen ∧ (d.act setup a).board.text = d.board.text := by
  obtain ⟨text, reads⟩ := Option.isSome_iff_exists.mp read
  have kept : (d.act setup a).board.text = d.board.text := by
    cases a with
    | write other => cases reads
    | _ => rfl
  refine ⟨?_, kept⟩
  rw [Seen, act_baseline, kept, reads]
  exact reading?_eq_board reads

theorem Seen.act (setup : Setup Handle Instance) {d : Desk Instance} (seen : d.Seen)
    {a : Action} (keeps : a.keeps d.board.text) : (d.act setup a).Seen := by
  rw [Seen, act_baseline, act_board_text setup keeps]
  cases reads : d.reading? a with
  | none => exact seen
  | some text => exact reading?_eq_board reads

theorem Seen.foldl (setup : Setup Handle Instance) {d : Desk Instance} (seen : d.Seen)
    {actions : List Action} (keep : ∀ a ∈ actions, a.keeps d.board.text) :
    (actions.foldl (Desk.act setup) d).Seen := by
  induction actions generalizing d with
  | nil => exact seen
  | cons a rest ih =>
      have keeps := keep a List.mem_cons_self
      apply ih (seen.act setup keeps)
      intro later member
      rw [act_board_text setup keeps]
      exact keep later (List.mem_cons_of_mem a member)

/-- At rest, a screen is blank if no cycle was ever started, and else shows what the text
last read comes to without a session.  That text is the one on the board if it was read
since it last changed. -/
theorem quiet_desk_shows_reference (setup : Setup Handle Instance) (board : Board)
    (actions : List Action) (errorPrefix : String)
    (quiet : (run setup board actions).ticker.session.Quiet)
    (timely : (run setup board actions).ticker.session.Timely setup.settings) :
    let d := run setup board actions
    let s := d.ticker.session
    let shown := s.screen errorPrefix
    let expected := fun text =>
      (reference setup.assembler setup.sandbox setup.settings text).render errorPrefix
    (s.stats.cyclesStarted = 0 → shown.content = ⟨"", false⟩ ∧ shown.writes = 0) ∧
    (s.stats.cyclesStarted ≠ 0 → shown.content = expected s.baseline.text) ∧
    ∀ before a after, actions = before ++ a :: after →
      let earlier := run setup board before
      (earlier.reading? a).isSome → (∀ later ∈ after, later.keeps earlier.board.text) →
        s.baseline.text = d.board.text ∧
        (s.stats.cyclesStarted ≠ 0 → shown.content = expected d.board.text) := by
  intro d s shown expected
  have isRun : s = Session.run setup (trace setup { board } actions) :=
    run_session setup board actions
  have kept := discard_not_mem_trace setup { board } actions
  have counts : s.stats.cyclesStarted = s.nextCycle := by
    rw [isRun]
    exact Session.run_cyclesStarted setup _
  have content : s.stats.cyclesStarted ≠ 0 → shown.content = expected s.baseline.text := by
    intro started
    obtain ⟨count, next⟩ := Nat.exists_eq_succ_of_ne_zero (counts ▸ started)
    change s.Quiet at quiet
    change s.Timely setup.settings at timely
    have last := Session.quiet_run_last_delivered setup kept (isRun ▸ quiet) (isRun ▸ timely)
      (isRun ▸ next)
    rw [← isRun] at last
    simp only [shown, Session.screen, Screen.showing_content, last]
    rfl
  refine ⟨?_, content, ?_⟩
  · intro unstarted
    have nothing := Session.run_delivered_eq_nil setup (isRun ▸ counts ▸ unstarted)
    rw [← isRun] at nothing
    simp only [shown, Session.screen, Screen.showing_content, Screen.showing_writes, nothing]
    exact ⟨rfl, rfl⟩
  · intro before a after split earlier read keep
    have seen : d.Seen := by
      obtain ⟨fresh, same⟩ := act_seen_of_reading setup read
      have later := fresh.foldl setup (same ▸ keep)
      have joined : d = after.foldl (Desk.act setup) (earlier.act setup a) := by
        simp [d, earlier, run, split]
      rw [joined]
      exact later
    refine ⟨seen, ?_⟩
    rw [← seen]
    exact content

/-- A text is changed and changed back while its cycle is held. -/
def reverting : List Action := [.start, .write "a", .fire, .run, .write ""]

/-- The held cycle ends last, when the board can no longer be read. -/
def settling : List Action := [.run, .hide, .fire, .release 0]

theorem quiet_desk_shows_reference_reverted :
    let setup := Setup.leisurely .latestStarted
    let d := run setup {} (reverting ++ .tick :: settling)
    let s := d.ticker.session
    s.Quiet ∧ s.completed = [(1, .ok .void), (0, .ok .void)] ∧
    s.baseline.text = d.board.text ∧
    (s.screen setup.settings.errorPrefix).content =
      (reference setup.assembler setup.sandbox setup.settings d.board.text).render
        setup.settings.errorPrefix := by
  have quiet : (run (Setup.leisurely .latestStarted) {}
      (reverting ++ .tick :: settling)).ticker.session.Quiet := by
    constructor <;> rfl
  obtain ⟨-, -, shows⟩ := quiet_desk_shows_reference _ _ _ defaultErrorPrefix quiet (.inl rfl)
  obtain ⟨seen, content⟩ := shows reverting .tick settling rfl rfl (by decide)
  exact ⟨quiet, rfl, seen, content (by decide)⟩

end Desk

end Rerun
