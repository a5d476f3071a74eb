import Rerun.Proofs.Desk.Policy
import Rerun.Proofs.Desk.Quiescence
import Rerun.Proofs.Session.Pool

/-! The pool of a desk.  When it is run is not to be told from what becomes of the desk, once
it has been run at the end, except by what was written meanwhile. -/

namespace Rerun

variable {Handle Instance : Type}

namespace Desk

/-- An action that runs the pool as a whole, or has nothing to do with it. -/
def Action.isPlain : Action → Bool
  | release _ | begin _ | resume _ => false
  | _ => true

def Alike (d e : Desk Instance) : Prop :=
  d.front = e.front ∧ d.ticker.session.Alike e.ticker.session

section Alike

variable {d e f : Desk Instance} (setup : Setup Handle Instance)

theorem Alike.refl (d : Desk Instance) : d.Alike d := ⟨rfl, Session.Alike.refl _⟩

theorem Alike.symm (alike : d.Alike e) : e.Alike d := ⟨alike.1.symm, alike.2.symm⟩

theorem Alike.trans (first : d.Alike e) (second : e.Alike f) : d.Alike f :=
  ⟨first.1.trans second.1, first.2.trans second.2⟩

theorem Alike.act (alike : d.Alike e) (a : Action) :
    (d.act setup a).Alike (e.act setup a) := by
  obtain ⟨front, session⟩ := alike
  refine ⟨act_front_congr front setup setup a, ?_⟩
  have steps := steps_congr front session.detected setup setup a
    fun index _ => Session.heldAt_congr session index
  rw [act_session, act_session, steps]
  exact session.steps setup _

@[simp] theorem run_run (setup : Setup Handle Instance) (d : Desk Instance) :
    (d.act setup .run).act setup .run = d.act setup .run := by
  simp [act, Ticker.run]

/-- Once the pool is run, it makes no difference whether it was run before an action as
well. -/
theorem run_act_run_alike (counted : d.ticker.session.Counted) {a : Action}
    (plain : a.isPlain) :
    ((d.act setup a).act setup .run).Alike
      (((d.act setup .run).act setup a).act setup .run) := by
  constructor
  · have idle : d.front = (d.act setup .run).front := rfl
    exact act_front_congr idle setup setup a
  · have untouched : (d.act setup .run).ticker.session.Alike
        ((d.act setup .run).act setup .run).ticker.session := by
      rw [run_run]
      exact Session.Alike.refl _
    have detects := Session.beginAll_detect_alike setup _ counted d.board.read
    cases a with
    | tick => exact detects
    | fire =>
        cases armed : d.ticker.frames.pending with
        | none => simpa [act, Ticker.fire, FrameSlot.fire, Ticker.run, armed] using untouched
        | some callback =>
            simpa [act, Ticker.fire, FrameSlot.fire, Ticker.run, Ticker.work, armed] using
              detects
    | run =>
        simp only [run_run]
        exact Session.Alike.refl _
    | release index | begin id | resume id => cases plain
    | _ => exact untouched

end Alike

theorem run_concat (setup : Setup Handle Instance) (board : Board) (actions : List Action)
    (a : Action) :
    run setup board (actions ++ [a]) = (run setup board actions).act setup a := by
  simp [run]

theorem run_session_counted (setup : Setup Handle Instance) (board : Board)
    (actions : List Action) : (run setup board actions).ticker.session.Counted := by
  rw [run_session]
  exact Session.run_counted setup _

/-- Of all the times that the pool is run, the last one is enough. -/
theorem run_filter_alike (setup : Setup Handle Instance) (board : Board)
    {actions : List Action} (plain : ∀ a ∈ actions, a.isPlain) :
    ((run setup board actions).act setup .run).Alike
      ((run setup board (actions.filter (· ≠ .run))).act setup .run) := by
  induction actions using List.reverseRecOn with
  | nil => exact Alike.refl _
  | append_singleton actions a ih =>
      have earlier := ih fun b member => plain b (List.mem_append_left _ member)
      have own := plain a (by simp)
      have counted := run_session_counted setup board
      rw [run_concat, List.filter_append]
      have through := (run_act_run_alike setup (counted actions) own).trans
        ((earlier.act setup a).act setup .run)
      by_cases pool : a = .run
      · subst pool
        simp only [run_run] at through ⊢
        simpa using through
      · have back := run_act_run_alike setup (counted (actions.filter (· ≠ .run))) own
        have single : [a].filter (· ≠ .run) = [a] := by simp [pool]
        rw [single, run_concat]
        exact through.trans back.symm

theorem act_inOrder (setup : Setup Handle Instance) {d : Desk Instance}
    (inOrder : d.ticker.session.InOrder) {a : Action} (plain : a.isPlain)
    (unpaused : (d.act setup a).ticker.session.pauses = []) :
    (d.act setup a).ticker.session.InOrder := by
  cases a with
  | tick => exact inOrder.detect d.board.read
  | fire =>
      cases armed : d.ticker.frames.pending with
      | none => simpa [act, Ticker.fire, FrameSlot.fire, armed] using inOrder
      | some callback =>
          simpa [act, Ticker.fire, FrameSlot.fire, Ticker.work, armed] using
            inOrder.detect d.board.read
  | run => exact inOrder.beginAll setup unpaused
  | release index | begin id | resume id => cases plain
  | _ => exact inOrder

theorem run_inOrder (setup : Setup Handle Instance) (board : Board) {actions : List Action}
    (plain : ∀ a ∈ actions, a.isPlain)
    (unpaused : (run setup board actions).ticker.session.pauses = []) :
    (run setup board actions).ticker.session.InOrder := by
  induction actions using List.reverseRecOn with
  | nil => rfl
  | append_singleton actions a ih =>
      rw [run_concat] at unpaused ⊢
      have before : (run setup board actions).ticker.session.pauses = [] := by
        have grown := Session.foldl_pauses_subset setup
          (run setup board actions).ticker.session ((run setup board actions).steps setup a)
        rw [← act_session, unpaused] at grown
        exact List.subset_nil.mp grown
      exact act_inOrder setup (ih (fun b member => plain b (List.mem_append_left _ member))
        before) (plain a (by simp)) unpaused

/-- A desk without what was written. -/
def unlogged (d : Desk Instance) : Desk Instance := { d with ticker.session.log := [] }

theorem Alike.unlogged_eq {setup : Setup Handle Instance} {board : Board}
    {first second : List Action}
    (alike : (run setup board first).Alike (run setup board second)) :
    (run setup board first).unlogged = (run setup board second).unlogged := by
  have reported (actions : List Action) :
      (run setup board actions).ticker.session.Reported setup.settings := by
    rw [run_session]
    exact Session.run_reported setup _
  have balanced (actions : List Action) :
      (run setup board actions).ticker.session.Balanced := by
    rw [run_session, ← Session.play_moves]
    exact Session.play_balanced setup.settings _
  obtain ⟨front, session⟩ := alike
  have same := session.eq_except_log (reported first) (reported second) (balanced first)
    (balanced second)
  obtain ⟨boards, frames, ticks⟩ := front_congr front
  simp only [unlogged, same, boards, frames, ticks]

end Desk

private theorem eq_map_zipIdx {α β : Type} {f : α → β} {texts : List α}
    {entries : List (Nat × β)} (ids : entries.map (·.1) = List.range texts.length)
    (each : ∀ entry ∈ entries, ∃ text, texts[entry.1]? = some text ∧ entry.2 = f text) :
    entries = texts.zipIdx.map fun (text, id) => (id, f text) := by
  have length : entries.length = texts.length := by simpa using congrArg List.length ids
  apply List.ext_getElem
  · simpa using length
  · intro index inside bound
    have within : index < texts.length := length ▸ inside
    have number : entries[index].1 = index := by
      have same : (entries.map (·.1))[index]? = (List.range texts.length)[index]? := by rw [ids]
      simpa [inside, within] using same
    obtain ⟨text, own, outcome⟩ := each entries[index] (List.getElem_mem inside)
    rw [number, List.getElem?_eq_getElem within, Option.some.injEq] at own
    rw [List.getElem_map, List.getElem_zipIdx, Nat.zero_add, own]
    exact Prod.ext number outcome

namespace Session

section InOrder

variable {setup : Setup Handle Instance} {steps : List Step}

theorem InOrder.completed_ids {s : Session Instance} (inOrder : s.InOrder)
    (begun : s.detected = []) : s.completed.map (·.1) = List.range s.nextCycle := by
  simpa [InOrder, begun] using inOrder

theorem InOrder.delivered_eq_completed (inOrder : (run setup steps).InOrder)
    (begun : (run setup steps).detected = []) :
    (run setup steps).delivered = (run setup steps).completed := by
  have increasing : ((run setup steps).completed.map (·.1)).Pairwise (· < ·) := by
    rw [inOrder.completed_ids begun]
    exact List.pairwise_lt_range
  rw [(run_reported setup steps).delivered_eq_leaders (.inr increasing),
    leaders_eq_self increasing]

theorem InOrder.delivered_eq (inOrder : (run setup steps).InOrder)
    (begun : (run setup steps).detected = []) :
    (run setup steps).delivered =
      (Step.textsStarted steps).zipIdx.map fun (text, id) =>
        (id, reference setup.assembler setup.sandbox setup.settings text) := by
  have ids := inOrder.completed_ids begun
  rw [(run_follows setup steps).count] at ids
  rw [inOrder.delivered_eq_completed begun]
  exact eq_map_zipIdx ids fun entry member => completed_reference setup steps member

theorem InOrder.droppedReports_eq_zero (inOrder : (run setup steps).InOrder)
    (begun : (run setup steps).detected = []) :
    (run setup steps).stats.droppedReports = 0 := by
  have balanced := play_balanced setup.settings (setup.moves steps)
  rw [play_moves] at balanced
  exact balanced.droppedReports_eq_zero (inOrder.delivered_eq_completed begun)

end InOrder

end Session

namespace Desk

/-- What becomes of a desk does not depend on when its pool is run, as long as it is run at
the end: there is nothing to tell but the order of what was written.  If no cycle pauses,
every text that was detected is reported in its turn, under either policy, and the last one
is shown. -/
theorem pool_may_be_run_late (setup : Setup Handle Instance) (board : Board)
    (errorPrefix : String) {first second : List Action} (plain : ∀ a ∈ first, a.isPlain)
    (same : first.filter (· ≠ .run) = second.filter (· ≠ .run)) :
    let d := run setup board (first ++ [.run])
    let e := run setup board (second ++ [.run])
    let s := d.ticker.session
    let t := e.ticker.session
    let texts := Step.textsStarted (trace setup { board } (first ++ [.run]))
    let expected := reference setup.assembler setup.sandbox setup.settings
    let shown := (s.screen errorPrefix).content
    d.unlogged = e.unlogged ∧ s.created = t.created ∧ s.destroyed = t.destroyed ∧
    s.screen errorPrefix = t.screen errorPrefix ∧
    (s.pauses = [] →
      s.Quiet ∧
      s.delivered = texts.zipIdx.map (fun (text, id) => (id, expected text)) ∧
      s.delivered.map (·.1) = List.range s.stats.cyclesStarted ∧
      s.stats.droppedReports = 0 ∧
      shown = texts.getLast?.elim ⟨"", false⟩ fun text => (expected text).render errorPrefix) := by
  intro d e s t texts expected shown
  have plainSecond : ∀ a ∈ second, a.isPlain := by
    intro a member
    by_cases pool : a = .run
    · subst pool
      rfl
    · have kept : a ∈ second.filter (· ≠ .run) := List.mem_filter.mpr ⟨member, by simpa⟩
      rw [← same] at kept
      exact plain a (List.mem_filter.mp kept).1
  have alike : d.Alike e := by
    have early := run_filter_alike setup board plain
    have late := run_filter_alike setup board plainSecond
    rw [← same] at late
    simp only [d, e, run_concat]
    exact early.trans late.symm
  have unlogged : d.unlogged = e.unlogged := alike.unlogged_eq
  have session : { s with log := [] } = { t with log := [] } :=
    congrArg (fun d : Desk Instance => d.ticker.session) unlogged
  have calls : s.calls = t.calls := by
    have same := congrArg Session.calls session
    exact same
  have delivered : s.delivered = t.delivered := by
    have same := congrArg Session.delivered session
    exact same
  refine ⟨unlogged, ?_, ?_, ?_, ?_⟩
  · rw [Session.created, Session.created, calls]
  · rw [Session.destroyed, Session.destroyed, calls]
  · rw [Session.screen, Session.screen, delivered]
  · intro unpaused
    have isRun : s = Session.run setup (trace setup { board } (first ++ [.run])) :=
      run_session setup board (first ++ [.run])
    have plainAll : ∀ a ∈ first ++ [.run], a.isPlain := by
      intro a member
      rcases List.mem_append.mp member with inside | last
      · exact plain a inside
      · obtain rfl := List.mem_singleton.mp last
        rfl
    have begun : s.detected = [] := by
      simp only [s, d, run_concat]
      exact Session.beginAll_detected setup _
    have inOrder : s.InOrder := run_inOrder setup board plainAll unpaused
    have still : s.suspended = [] := by
      rw [isRun] at unpaused ⊢
      exact Session.run_suspended_eq_nil setup unpaused
    have reports : s.delivered = texts.zipIdx.map fun (text, id) => (id, expected text) := by
      rw [isRun] at begun inOrder ⊢
      exact inOrder.delivered_eq begun
    refine ⟨⟨begun, still⟩, reports, ?_, ?_, ?_⟩
    · have counts : s.stats.cyclesStarted = s.nextCycle := by
        rw [isRun]
        exact Session.run_cyclesStarted setup _
      rw [counts, ← inOrder.completed_ids begun]
      rw [isRun] at begun inOrder ⊢
      rw [inOrder.delivered_eq_completed begun]
    · rw [isRun] at begun inOrder ⊢
      exact inOrder.droppedReports_eq_zero begun
    · simp only [shown, Session.screen, Screen.showing_content, reports, List.getLast?_map,
        List.getLast?_zipIdx]
      cases texts.getLast? <;> rfl

/-- Parties that never pause and refuse the empty text. -/
def prompt : Setup String Unit :=
  { Setup.leisurely .latestStarted with
    assembler := ⟨fun _ text _ => if text = "" then .error (.plain "nothing to parse")
      else .ok text, fun text => .ok text.toUTF8⟩
    sandbox := ⟨fun _ => .done (.ok ()), fun _ => .done (.ok .void)⟩ }

/-- The pool is run after every reading, or once in between and at the end. -/
theorem pool_may_be_run_late_postponed :
    let eager : List Action :=
      [.start, .write "a", .fire, .run, .write "", .tick, .run, .write "b", .fire]
    let late : List Action :=
      [.start, .write "a", .fire, .write "", .tick, .write "b", .run, .fire]
    let d := run prompt {} (eager ++ [.run])
    let s := d.ticker.session
    (∀ a ∈ eager, a.isPlain) ∧ eager.filter (· ≠ .run) = late.filter (· ≠ .run) ∧
    d.unlogged = (run prompt {} (late ++ [.run])).unlogged ∧ s.pauses = [] ∧
    s.delivered.map (·.1) = [0, 1, 2] ∧
    (s.screen defaultErrorPrefix).content = ⟨"()", false⟩ := by
  intro eager late d s
  have plain : ∀ a ∈ eager, a.isPlain := by decide
  have same : eager.filter (· ≠ .run) = late.filter (· ≠ .run) := by decide
  obtain ⟨unlogged, -, -, -, unpaused⟩ :=
    pool_may_be_run_late prompt {} defaultErrorPrefix plain same
  obtain ⟨-, -, ids, -, shown⟩ := unpaused rfl
  exact ⟨plain, same, unlogged, rfl, ids, shown⟩

end Desk

end Rerun
