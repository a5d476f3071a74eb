import Rerun.Proofs.Session.Backstage

/-! Handles in the history of a session.  A handle is gone before anything else happens,
whatever the parties answer and wherever cycles pause. -/

namespace Rerun

variable {Handle Instance : Type}

/-- What is seen of a session from outside. -/
inductive Event
  | call (call : Call)
  | pause (id : CycleId)

namespace Event

def call? : Event → Option Call
  | call c => some c
  | pause _ => none

def pause? : Event → Option CycleId
  | call _ => none
  | pause id => some id

def cycle? : Event → Option CycleId
  | call c => c.cycle?
  | pause id => some id

/-- The handle that is created, encoded or destroyed. -/
def handle? : Event → Option Nat
  | call (.parse _ _ _ handle) => handle
  | call (.encode handle) | call (.destroy handle) => some handle
  | _ => none

/-- Whether the event takes up a handle that was created before. -/
def needsHandle : Event → Bool
  | call (.encode _) | call (.destroy _) => true
  | _ => false

def isCreation (e : Event) : Bool := e.call?.any Call.isCreation

def isDestruction (e : Event) : Bool := e.call?.any Call.isDestruction

theorem of_outside {event : Event} {id : CycleId} (own : event.cycle? = some id) :
    event.handle? = none ∧ event.needsHandle = false ∧ event.isCreation = false ∧
      event.isDestruction = false := by
  cases event with
  | pause _ => exact ⟨rfl, rfl, rfl, rfl⟩
  | call c =>
      cases c with
      | instantiate cycle binary | callMain cycle => exact ⟨rfl, rfl, rfl, rfl⟩
      | _ => cases own

theorem countP_call? (p : Call → Bool) (events : List Event) :
    events.countP (·.call?.any p) = (events.filterMap call?).countP p := by
  rw [List.countP_filterMap]
  apply List.countP_congr
  intro event _
  cases event <;> rfl

end Event

/-- A history that takes the number of the next handle from one to another.  It can only
be continued by a parse that fails, by a whole assembly, by a call on the sandbox or by a
pause. -/
inductive Tidy : Nat → List Event → Nat → Prop
  | nil (serial : Nat) : Tidy serial [] serial
  | refused (name text : String) (options : ParseOptions) {serial last : Nat}
      {rest : List Event} (tidy : Tidy serial rest last) :
      Tidy serial (.call (.parse name text options none) :: rest) last
  | assembled (name text : String) (options : ParseOptions) {serial last : Nat}
      {rest : List Event} (tidy : Tidy (serial + 1) rest last) :
      Tidy serial
        (.call (.parse name text options (some serial)) :: .call (.encode serial) ::
          .call (.destroy serial) :: rest) last
  | outside {event : Event} {id : CycleId} (own : event.cycle? = some id)
      {serial last : Nat} {rest : List Event} (tidy : Tidy serial rest last) :
      Tidy serial (event :: rest) last

namespace Tidy

theorem append {serial middle last : Nat} {first second : List Event}
    (tidy : Tidy serial first middle) (later : Tidy middle second last) :
    Tidy serial (first ++ second) last := by
  induction tidy with
  | nil => exact later
  | refused name text options _ ih => exact .refused name text options (ih later)
  | assembled name text options _ ih => exact .assembled name text options (ih later)
  | outside own _ ih => exact .outside own (ih later)

theorem of_outside {events : List Event} (serial : Nat)
    (outside : ∀ event ∈ events, event.cycle?.isSome) : Tidy serial events serial := by
  induction events with
  | nil => exact .nil serial
  | cons event rest ih =>
      obtain ⟨now, later⟩ := List.forall_mem_cons.mp outside
      obtain ⟨id, own⟩ := Option.isSome_iff_exists.mp now
      exact .outside own (ih later)

/-- A tidy history can be cut anywhere but between a handle's creation and its end. -/
theorem split {serial last : Nat} {before after : List Event} {event : Event}
    (tidy : Tidy serial (before ++ event :: after) last) (free : event.needsHandle = false) :
    ∃ middle, Tidy serial before middle ∧ Tidy middle (event :: after) last := by
  generalize joined : before ++ event :: after = whole at tidy
  induction tidy generalizing before with
  | nil => simp at joined
  | @refused name text options serial last rest tidy ih =>
      cases before with
      | nil =>
          rw [List.nil_append] at joined
          exact ⟨serial, .nil serial, joined ▸ .refused name text options tidy⟩
      | cons head tail =>
          simp only [List.cons_append, List.cons.injEq] at joined
          obtain ⟨rfl, joined⟩ := joined
          obtain ⟨middle, first, second⟩ := ih joined
          exact ⟨middle, .refused name text options first, second⟩
  | @assembled name text options serial last rest tidy ih =>
      match before, joined with
      | [], joined =>
          rw [List.nil_append] at joined
          exact ⟨serial, .nil serial, joined ▸ .assembled name text options tidy⟩
      | [_], joined =>
          obtain rfl : event = .call (.encode serial) := by simp_all
          cases free
      | [_, _], joined =>
          obtain rfl : event = .call (.destroy serial) := by simp_all
          cases free
      | _ :: _ :: _ :: tail, joined =>
          simp only [List.cons_append, List.cons.injEq] at joined
          obtain ⟨rfl, rfl, rfl, joined⟩ := joined
          obtain ⟨middle, first, second⟩ := ih joined
          exact ⟨middle, .assembled name text options first, second⟩
  | @outside other id own serial last rest tidy ih =>
      cases before with
      | nil =>
          rw [List.nil_append] at joined
          exact ⟨serial, .nil serial, joined ▸ .outside own tidy⟩
      | cons head tail =>
          simp only [List.cons_append, List.cons.injEq] at joined
          obtain ⟨rfl, joined⟩ := joined
          obtain ⟨middle, first, second⟩ := ih joined
          exact ⟨middle, .outside own first, second⟩

theorem bounds {serial last : Nat} {events : List Event} (tidy : Tidy serial events last) :
    serial ≤ last ∧
      ∀ event ∈ events, ∀ handle ∈ event.handle?, serial ≤ handle ∧ handle < last := by
  induction tidy with
  | nil => exact ⟨Nat.le_refl _, fun _ member => absurd member List.not_mem_nil⟩
  | refused name text options _ ih =>
      refine ⟨ih.1, List.forall_mem_cons.mpr ⟨?_, ih.2⟩⟩
      intro handle found
      cases found
  | @assembled name text options serial last rest _ ih =>
      obtain ⟨ordered, later⟩ := ih
      have own : ∀ handle ∈ some serial, serial ≤ handle ∧ handle < last := by
        rintro _ ⟨⟩
        exact ⟨Nat.le_refl _, ordered⟩
      refine ⟨Nat.le_of_succ_le ordered, ?_⟩
      simp only [List.forall_mem_cons]
      refine ⟨own, own, own, ?_⟩
      intro event member handle found
      obtain ⟨above, below⟩ := later event member handle found
      exact ⟨Nat.le_of_succ_le above, below⟩
  | outside own _ ih =>
      refine ⟨ih.1, List.forall_mem_cons.mpr ⟨?_, ih.2⟩⟩
      intro handle found
      rw [(Event.of_outside own).1] at found
      cases found

theorem counts {serial last : Nat} {events : List Event} (tidy : Tidy serial events last) :
    serial + events.countP Event.isCreation = last ∧
      events.countP Event.isDestruction = events.countP Event.isCreation := by
  induction tidy with
  | nil => exact ⟨rfl, rfl⟩
  | refused name text options _ ih => exact ih
  | assembled name text options _ ih =>
      obtain ⟨created, destroyed⟩ := ih
      simp only [List.countP_cons, Event.isCreation, Event.isDestruction, Event.call?,
        Option.any_some, Call.isCreation, Call.isDestruction]
      simp only [if_true, if_false, Bool.false_eq_true]
      omega
  | outside own _ ih =>
      obtain ⟨-, -, creation, destruction⟩ := Event.of_outside own
      simpa [List.countP_cons, creation, destruction] using ih

/-- The handle is encoded and destroyed right after it was created, and never again. -/
theorem created {serial last handle : Nat} {before after : List Event}
    {name text : String} {options : ParseOptions}
    (tidy : Tidy serial
      (before ++ .call (.parse name text options (some handle)) :: after) last) :
    ∃ rest, after = .call (.encode handle) :: .call (.destroy handle) :: rest ∧
      ∀ event ∈ before ++ rest, event.handle? ≠ some handle := by
  obtain ⟨middle, first, second⟩ := tidy.split rfl
  cases second with
  | outside own => cases own
  | @assembled _ _ _ _ _ rest later =>
      refine ⟨rest, rfl, ?_⟩
      intro event member same
      rcases List.mem_append.mp member with earlier | after
      · have below := (first.bounds.2 event earlier _ same).2
        exact Nat.lt_irrefl _ below
      · have above := (later.bounds.2 event after _ same).1
        exact Nat.not_succ_le_self _ above

/-- After a parse that fails no handle is taken up. -/
theorem refused_next {serial last : Nat} {before after : List Event} {name text : String}
    {options : ParseOptions}
    (tidy : Tidy serial (before ++ .call (.parse name text options none) :: after) last) :
    ∀ next ∈ after.head?, next.needsHandle = false := by
  obtain ⟨middle, -, second⟩ := tidy.split rfl
  cases second with
  | outside own => cases own
  | refused _ _ _ later =>
      intro next first
      cases later with
      | nil => cases first
      | refused name text options _ | assembled name text options _ =>
          obtain rfl := Option.some.inj first
          rfl
      | outside own _ =>
          obtain rfl := Option.some.inj first
          exact (Event.of_outside own).2.1

end Tidy

theorem Assembler.assemble_tidy (assembler : Assembler Handle) (settings : Settings)
    (serial : Nat) (text : String) :
    ∃ last, Tidy serial
      ((assembler.assemble settings serial text).calls.map Event.call) last := by
  simp only [assemble]
  cases assembler.parse settings.moduleName text settings.parseOptions with
  | error d => exact ⟨serial, .refused _ _ _ (.nil serial)⟩
  | ok handle =>
      have whole := Tidy.assembled settings.moduleName text settings.parseOptions
        (.nil (serial + 1))
      dsimp only
      cases assembler.encode handle <;> exact ⟨serial + 1, whole⟩

theorem Tidy.of_sandbox {id : CycleId} {calls : List Call}
    (own : ∀ call ∈ calls, call.cycle? = some id) (pauses : List CycleId) (serial : Nat) :
    Tidy serial (calls.map Event.call ++ pauses.map Event.pause) serial := by
  apply Tidy.of_outside
  simp only [List.forall_mem_append, List.forall_mem_map]
  constructor
  · intro call member
    exact Option.isSome_iff_exists.mpr ⟨id, own call member⟩
  · intro _ _
    rfl

namespace Session

/-- What happened from one state to another, at most a step later.  A step makes its calls
and ends with a pause, if its cycle pauses. -/
def happened (s t : Session Instance) : List Event :=
  (t.calls.drop s.calls.length).map .call ++ (t.pauses.drop s.pauses.length).map .pause

def history (settings : Settings) :
    Session Instance → List (Move Handle Instance) → List Event
  | _, [] => []
  | s, m :: rest => s.happened (s.move settings m) ++ history settings (s.move settings m) rest

theorem history_concat (settings : Settings) (s : Session Instance)
    (moves : List (Move Handle Instance)) (m : Move Handle Instance) :
    history settings s (moves ++ [m]) =
      history settings s moves ++
        (moves.foldl (move settings) s).happened
          ((moves.foldl (move settings) s).move settings m) := by
  induction moves generalizing s with
  | nil => simp [history]
  | cons head tail ih =>
      simp only [List.cons_append, history, ih, List.append_assoc, List.foldl_cons]

theorem happened_eq {s t : Session Instance} {calls : List Call} {pauses : List CycleId}
    (called : t.calls = s.calls ++ calls) (paused : t.pauses = s.pauses ++ pauses) :
    s.happened t = calls.map .call ++ pauses.map .pause := by
  rw [happened, called, paused, List.drop_left, List.drop_left]

theorem Effect.happens {setup : Setup Handle Instance} {s t : Session Instance}
    {step : Step} (effect : Effect setup s step t) :
    ∃ calls pauses last, t.calls = s.calls ++ calls ∧ t.pauses = s.pauses ++ pauses ∧
      Tidy s.created (calls.map .call ++ pauses.map .pause) last := by
  have still {u : Session Instance} (called : u.calls = s.calls)
      (paused : u.pauses = s.pauses) :
      ∃ calls pauses last, u.calls = s.calls ++ calls ∧ u.pauses = s.pauses ++ pauses ∧
        Tidy s.created (calls.map .call ++ pauses.map .pause) last :=
    ⟨[], [], s.created, by simp [called], by simp [paused], .nil s.created⟩
  cases effect with
  | idle => exact still rfl rfl
  | started text changed => exact still rfl rfl
  | discarded c found => exact still rfl rfl
  | begun c found =>
      obtain ⟨last, assembly⟩ :=
        setup.assembler.assemble_tidy setup.settings s.created c.text
      refine ⟨_, _, last, settle_calls .., settle_pauses .., ?_⟩
      rw [List.map_append, List.append_assoc]
      exact assembly.append (.of_sandbox (setup.opening_calls_cycle? c.id c.text) _ last)
  | resumed c standing found =>
      exact ⟨_, _, s.created, settle_calls .., settle_pauses ..,
        .of_sandbox (standing.calls_cycle? c.id) _ s.created⟩

/-- The history of a run, told by its calls and by its pauses, and how tidy it is. -/
structure Recorded (s : Session Instance) (events : List Event) : Prop where
  calls : events.filterMap Event.call? = s.calls
  pauses : events.filterMap Event.pause? = s.pauses
  tidy : Tidy 0 events s.created

theorem Recorded.step {setup : Setup Handle Instance} {s t : Session Instance} {step : Step}
    {events : List Event} (recorded : s.Recorded events) (effect : Effect setup s step t) :
    t.Recorded (events ++ s.happened t) := by
  obtain ⟨calls, pauses, last, called, paused, tidy⟩ := effect.happens
  have onlyCalls : (calls.map Event.call ++ pauses.map Event.pause).filterMap Event.call? =
      calls := by
    simp [List.filterMap_append, List.filterMap_map, Function.comp_def, Event.call?]
  have onlyPauses : (calls.map Event.call ++ pauses.map Event.pause).filterMap Event.pause? =
      pauses := by
    simp [List.filterMap_append, List.filterMap_map, Function.comp_def, Event.pause?]
  rw [happened_eq called paused]
  constructor
  · rw [List.filterMap_append, recorded.calls, onlyCalls, called]
  · rw [List.filterMap_append, recorded.pauses, onlyPauses, paused]
  · have total : t.created = last := by
      have fresh := Event.countP_call? Call.isCreation
        (calls.map Event.call ++ pauses.map Event.pause)
      rw [onlyCalls] at fresh
      rw [← tidy.counts.1, created, called, List.countP_append]
      exact congrArg (s.created + ·) fresh.symm
    rw [total]
    exact recorded.tidy.append tidy

theorem play_recorded (settings : Settings) (moves : List (Move Handle Instance)) :
    (play settings moves).Recorded (history settings {} moves) := by
  induction moves using List.reverseRecOn with
  | nil => exact ⟨rfl, rfl, .nil 0⟩
  | append_singleton moves m ih =>
      rw [play_concat, history_concat]
      exact ih.step (step_effect (m.setup settings) _ m.step)

theorem Recorded.created_eq_destroyed {s : Session Instance} {events : List Event}
    (recorded : s.Recorded events) : s.created = s.destroyed := by
  rw [created, destroyed, ← recorded.calls, ← Event.countP_call?, ← Event.countP_call?]
  exact recorded.tidy.counts.2.symm

/-- Every handle is encoded and destroyed as soon as it is created, once each, and a parse
that fails leaves nothing to do.  So no handle exists when a state is seen, when the sandbox
is called or when a cycle pauses. -/
theorem handles_end_where_they_begin (settings : Settings)
    (moves : List (Move Handle Instance)) :
    let s := play settings moves
    let events := history settings {} moves
    events.filterMap Event.call? = s.calls ∧ events.filterMap Event.pause? = s.pauses ∧
    Tidy 0 events s.created ∧ s.created = s.destroyed ∧
    (∀ before name text options handle after,
      events = before ++ .call (.parse name text options (some handle)) :: after →
      ∃ rest, after = .call (.encode handle) :: .call (.destroy handle) :: rest ∧
        ∀ event ∈ before ++ rest, event.handle? ≠ some handle) ∧
    (∀ before name text options after,
      events = before ++ .call (.parse name text options none) :: after →
      ∀ next ∈ after.head?, next.needsHandle = false) ∧
    ∀ before event after, events = before ++ event :: after → event.cycle?.isSome →
      before.countP Event.isCreation = before.countP Event.isDestruction := by
  intro s events
  have recorded : s.Recorded events := play_recorded settings moves
  have tidy := recorded.tidy
  refine ⟨recorded.calls, recorded.pauses, tidy, recorded.created_eq_destroyed, ?_, ?_, ?_⟩
  · intro before name text options handle after cut
    rw [cut] at tidy
    exact tidy.created
  · intro before name text options after cut
    rw [cut] at tidy
    exact tidy.refused_next
  · intro before event after cut outside
    rw [cut] at tidy
    obtain ⟨id, own⟩ := Option.isSome_iff_exists.mp outside
    obtain ⟨middle, first, -⟩ := tidy.split (Event.of_outside own).2.1
    exact first.counts.2.symm

/-- Parties that refuse the empty text at once, and one more text when it is encoded. -/
def choosy : Setup String Unit :=
  { Setup.leisurely .lastCompleted with
    assembler :=
      ⟨fun _ text _ => if text = "" then .error (.plain "nothing to parse") else .ok text,
        fun text => if text = "b" then .error (.plain "no binary") else .ok text.toUTF8⟩ }

/-- A cycle hangs, the next is refused, and the last has a handle but no binary. -/
theorem handles_end_where_they_begin_failing :
    let events := history choosy.settings {} (choosy.moves
      [.detect (some "a"), .begin 0, .detect (some ""), .begin 1, .detect (some "b"), .begin 2])
    events = events.take 4 ++ .pause 0 :: events.drop 5 ∧
    (events.take 4).countP Event.isCreation = (events.take 4).countP Event.isDestruction ∧
    events = events.take 5 ++ .call (.parse "" "" {} none) :: events.drop 6 ∧
    (∀ next ∈ (events.drop 6).head?, next.needsHandle = false) ∧
    events = events.take 6 ++ .call (.parse "" "b" {} (some 1)) :: events.drop 7 ∧
    ∃ rest, events.drop 7 = .call (.encode 1) :: .call (.destroy 1) :: rest ∧
      ∀ event ∈ events.take 6 ++ rest, event.handle? ≠ some 1 := by
  intro events
  obtain ⟨-, -, -, -, created, refused, balanced⟩ :=
    handles_end_where_they_begin choosy.settings (choosy.moves
      [.detect (some "a"), .begin 0, .detect (some ""), .begin 1, .detect (some "b"), .begin 2])
  exact ⟨rfl, balanced (events.take 4) (.pause 0) (events.drop 5) rfl rfl, rfl,
    refused (events.take 5) "" "" {} (events.drop 6) rfl, rfl,
    created (events.take 6) "" "b" {} 1 (events.drop 7) rfl⟩

end Session

end Rerun
