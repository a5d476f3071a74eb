import Mathlib.Data.List.Infix
import Rerun.Console
import Rerun.Proofs.Desk.Run
import Rerun.Proofs.Session.Drain

/-! A frame loop on a clock against one that is driven by hand.  A single sleep is under way
at any time, and it ends at the next multiple of the period. -/

namespace Rerun

variable {Handle Instance : Type}

namespace Ticker

variable (setup : Setup Handle Instance) {t : Ticker Instance}

theorem frame_of_isArmed (armed : t.frames.isArmed) (reading : Option String) :
    t.frame setup reading =
      { t.work reading with session := (t.work reading).session.drain setup } := by
  obtain ⟨session, ⟨pending⟩, ticks⟩ := t
  cases pending with
  | none => cases armed
  | some callback => rfl

theorem frame_isArmed (armed : t.frames.isArmed) (reading : Option String) :
    (t.frame setup reading).frames.isArmed := by
  rw [frame_of_isArmed setup armed]
  exact armed

theorem foldl_frame_ticks (armed : t.frames.isArmed) (readings : List (Option String)) :
    (readings.foldl (frame setup) t).ticks = t.ticks + readings.length := by
  induction readings generalizing t with
  | nil => rfl
  | cons reading rest ih =>
      have one : (t.frame setup reading).ticks = t.ticks + 1 := by
        rw [frame_of_isArmed setup armed]
        rfl
      rw [List.foldl_cons, ih (frame_isArmed setup armed reading), one, List.length_cons]
      omega

theorem foldl_frame_quiet (quiet : t.session.Quiet) (readings : List (Option String)) :
    (readings.foldl (frame setup) t).session.Quiet := by
  induction readings generalizing t with
  | nil => exact quiet
  | cons reading rest ih => exact ih (Session.drain_quiet setup _)

end Ticker

namespace Timer

/-- Frames before a moment; one at the very moment is still to come. -/
def framesBefore (period moment : Nat) : Nat := (moment - 1) / period

section Frames

variable {period : Nat}

theorem framesBefore_mono (period moment length : Nat) :
    framesBefore period moment ≤ framesBefore period (moment + length) :=
  Nat.div_le_div_right (by omega)

theorem framesBefore_succ (positive : 0 < period) (moment : Nat) :
    framesBefore period (moment + 1) =
      framesBefore period moment +
        if moment = (framesBefore period moment + 1) * period then 1 else 0 := by
  cases moment with
  | zero =>
      have later : 0 ≠ (framesBefore period 0 + 1) * period :=
        Nat.ne_of_lt (Nat.mul_pos (Nat.succ_pos _) positive)
      rw [if_neg later]
      rfl
  | succ earlier =>
      have reached : period ∣ earlier + 1 ↔ earlier + 1 = (earlier / period + 1) * period := by
        constructor
        · intro divides
          rw [← Nat.succ_div_of_dvd divides, Nat.div_mul_cancel divides]
        · intro same
          exact ⟨_, same.trans (Nat.mul_comm _ _)⟩
      have count : framesBefore period (earlier + 1) = earlier / period := rfl
      have next : framesBefore period (earlier + 1 + 1) = (earlier + 1) / period := rfl
      -- the count goes up as the clock leaves a multiple of the period, not as it gets there
      rw [next, count, Nat.succ_div]
      simp only [reached]

theorem framesBefore_eq_div {moment : Nat} (away : period ∣ moment → moment = 0) :
    framesBefore period moment = moment / period := by
  cases moment with
  | zero => rfl
  | succ earlier =>
      have between : ¬ period ∣ earlier + 1 := fun divides => Nat.succ_ne_zero _ (away divides)
      exact (Nat.succ_div_of_not_dvd between).symm

end Frames

/-- A single sleep is under way, and it ends with the next frame. -/
structure OnTime (t : Timer Instance) : Prop where
  due : t.due = [(framesBefore t.period t.now + 1) * t.period]
  armed : t.ticker.frames.isArmed

/-- What the clock has come to after some time in which the text stayed as it was. -/
structure Slept (setup : Setup Handle Instance) (t : Timer Instance)
    (reading : Option String) (length : Nat) (u : Timer Instance) : Prop where
  onTime : u.OnTime
  period : u.period = t.period
  now : u.now = t.now + length
  ticker : u.ticker =
    (List.replicate (framesBefore t.period (t.now + length) - framesBefore t.period t.now)
      reading).foldl (Ticker.frame setup) t.ticker

section Sleep

variable (setup : Setup Handle Instance) {t u v : Timer Instance} {reading : Option String}

theorem Slept.refl (onTime : t.OnTime) : Slept setup t reading 0 t :=
  ⟨onTime, rfl, rfl, by simp⟩

theorem Slept.trans {setup : Setup Handle Instance} {first second : Nat}
    (start : Slept setup t reading first u) (later : Slept setup u reading second v) :
    Slept setup t reading (first + second) v := by
  refine ⟨later.onTime, later.period.trans start.period, ?_, ?_⟩
  · rw [later.now, start.now, Nat.add_assoc]
  · have middle := framesBefore_mono t.period t.now first
    have final := framesBefore_mono t.period (t.now + first) second
    rw [later.ticker, start.ticker, start.period, start.now, ← List.foldl_append,
      ← List.replicate_add, ← Nat.add_assoc]
    congr 2
    omega

theorem OnTime.pass (onTime : t.OnTime) (positive : 0 < t.period)
    (reading : Option String) : Slept setup t reading 1 (t.pass setup reading) := by
  obtain ⟨due, armed⟩ := onTime
  have next := framesBefore_succ positive t.now
  by_cases isDue : t.now = (framesBefore t.period t.now + 1) * t.period
  · -- the sleep ends now, and the tick begins the next one
    rw [if_pos isDue] at next
    have passed : t.pass setup reading =
        { t with
          now := t.now + 1
          due := [t.now + t.period]
          ticker := t.ticker.frame setup reading } := by
      rw [Ticker.frame_of_isArmed setup armed]
      simp [Timer.pass, due, ← isDue, Timer.tick, Timer.request]
    rw [passed]
    refine ⟨⟨?_, Ticker.frame_isArmed setup armed reading⟩, rfl, rfl, ?_⟩
    · simp only [next]
      rw [Nat.add_mul (framesBefore t.period t.now + 1), ← isDue, Nat.one_mul]
    · simp [next]
  · rw [if_neg isDue] at next
    have passed : t.pass setup reading = { t with now := t.now + 1 } := by
      simp [Timer.pass, due, Ne.symm isDue]
    rw [passed]
    refine ⟨⟨?_, armed⟩, rfl, rfl, ?_⟩
    · simp only [next, Nat.add_zero]
      exact due
    · simp [next]

theorem OnTime.sleep (onTime : t.OnTime) (positive : 0 < t.period)
    (reading : Option String) (length : Nat) :
    Slept setup t reading length (t.sleep setup reading length) := by
  induction length generalizing t with
  | zero => exact Slept.refl setup onTime
  | succ length ih =>
      have first := onTime.pass setup positive reading
      have rest := ih first.onTime (first.period ▸ positive)
      have whole := first.trans rest
      rwa [Nat.add_comm] at whole

theorem Slept.eq_of_frameless {setup : Setup Handle Instance} {length : Nat}
    (slept : Slept setup t reading length u) (onTime : t.OnTime)
    (frameless : framesBefore t.period (t.now + length) = framesBefore t.period t.now) :
    u = { t with now := t.now + length } := by
  have due : u.due = t.due := by
    rw [slept.onTime.due, slept.period, slept.now, frameless, onTime.due]
  have ticker : u.ticker = t.ticker := by
    rw [slept.ticker, frameless, Nat.sub_self]
    rfl
  rw [← slept.period, ← slept.now, ← due, ← ticker]

theorem sleep_add (t : Timer Instance) (reading : Option String) (first second : Nat) :
    t.sleep setup reading (first + second) =
      (t.sleep setup reading first).sleep setup reading second := by
  induction first generalizing t with
  | zero => rw [Nat.zero_add, Timer.sleep]
  | succ first ih => rw [Nat.succ_add, Timer.sleep, Timer.sleep, ih]

end Sleep

end Timer

/-- A board and the timer that watches it. -/
structure Timed (Instance : Type) where
  board : Board := {}
  timer : Timer Instance

namespace Timed

inductive Event
  | write (text : String)
  | sleep (length : Nat)
deriving DecidableEq, Repr

def Event.length : Event → Nat
  | write _ => 0
  | sleep length => length

def elapsed : List Event → Nat
  | [] => 0
  | event :: rest => event.length + elapsed rest

def step (setup : Setup Handle Instance) (d : Timed Instance) : Event → Timed Instance
  | .write text => { d with board := d.board.write text }
  | .sleep length => { d with timer := d.timer.sleep setup d.board.read length }

/-- A run from the start on a clock that counts so many units in a millisecond. -/
def run (setup : Setup Handle Instance) (units : Nat) (board : Board) (events : List Event) :
    Timed Instance :=
  events.foldl (step setup) ⟨board, { period := setup.settings.frameInterval * units }⟩

/-- No event ends on a frame.  Frames are at the multiples of the period but the first. -/
def OffFrames (period : Nat) (events : List Event) : Prop :=
  ∀ before ∈ events.inits, period ∣ elapsed before → elapsed before = 0

instance (period : Nat) (events : List Event) : Decidable (OffFrames period events) :=
  inferInstanceAs (Decidable (∀ before ∈ events.inits, _ → _))

def writes : Nat → List Event → List (Nat × String)
  | _, [] => []
  | now, .write text :: rest => (now, text) :: writes now rest
  | now, .sleep length :: rest => writes (now + length) rest

/-- What there is to read at a moment: what was last written before. -/
def readingAt (board : Board) (events : List Event) (moment : Nat) : Option String :=
  ((writes 0 events).filter (·.1 < moment)).getLast?.elim board.read fun entry =>
    some entry.2

inductive Manual
  | write (text : String)
  | frame
deriving DecidableEq, Repr

def manual (setup : Setup Handle Instance) (d : Desk Instance) : Manual → Desk Instance
  | .write text => { d with board := d.board.write text }
  | .frame => { d with ticker := d.ticker.frame setup d.board.read }

/-- Each sleep is replaced by the frames that fall into it. -/
def byHand (period : Nat) : Nat → List Event → List Manual
  | _, [] => []
  | now, .write text :: rest => .write text :: byHand period now rest
  | now, .sleep length :: rest =>
      List.replicate ((now + length) / period - now / period) .frame ++
        byHand period (now + length) rest

def desk (d : Timed Instance) : Desk Instance := ⟨d.board, d.timer.ticker⟩

theorem run_concat (setup : Setup Handle Instance) (units : Nat) (board : Board)
    (events : List Event) (event : Event) :
    run setup units board (events ++ [event]) =
      (run setup units board events).step setup event := by
  simp [run]

theorem elapsed_append (first second : List Event) :
    elapsed (first ++ second) = elapsed first + elapsed second := by
  induction first with
  | nil => exact (Nat.zero_add _).symm
  | cons event rest ih => rw [List.cons_append, elapsed, elapsed, ih, Nat.add_assoc]

theorem elapsed_concat (events : List Event) (event : Event) :
    elapsed (events ++ [event]) = elapsed events + event.length :=
  elapsed_append events [event]

theorem OffFrames.framesBefore_eq {period : Nat} {events : List Event}
    (away : OffFrames period events) :
    Timer.framesBefore period (elapsed events) = elapsed events / period :=
  Timer.framesBefore_eq_div (away events ((List.mem_inits _ _).mpr (List.prefix_refl _)))

theorem OffFrames.of_prefix {period : Nat} {events before : List Event}
    (away : OffFrames period events) (front : before <+: events) :
    OffFrames period before := by
  intro earlier member
  have further := ((List.mem_inits _ _).mp member).trans front
  exact away earlier ((List.mem_inits _ _).mpr further)

theorem writes_append (now : Nat) (first second : List Event) :
    writes now (first ++ second) = writes now first ++ writes (now + elapsed first) second := by
  induction first generalizing now with
  | nil => rfl
  | cons event rest ih =>
      cases event with
      | write text => simp [writes, ih, elapsed, Event.length]
      | sleep length => simp [writes, ih, elapsed, Event.length, Nat.add_assoc]

theorem byHand_append (period now : Nat) (first second : List Event) :
    byHand period now (first ++ second) =
      byHand period now first ++ byHand period (now + elapsed first) second := by
  induction first generalizing now with
  | nil => rfl
  | cons event rest ih =>
      cases event with
      | write text => simp [byHand, ih, elapsed, Event.length]
      | sleep length => simp [byHand, ih, elapsed, Event.length, Nat.add_assoc]

theorem le_of_mem_writes {now : Nat} {events : List Event} {entry : Nat × String}
    (member : entry ∈ writes now events) : entry.1 ≤ now + elapsed events := by
  induction events generalizing now with
  | nil => cases member
  | cons event rest ih =>
      cases event with
      | write text =>
          rcases List.mem_cons.mp member with rfl | later
          · exact Nat.le_add_right _ _
          · simpa [elapsed, Event.length] using ih later
      | sleep length => simpa [elapsed, Event.length, Nat.add_assoc] using ih member

theorem run_board_read (setup : Setup Handle Instance) (units : Nat) (board : Board)
    (events : List Event) :
    (run setup units board events).board.read =
      (writes 0 events).getLast?.elim board.read fun entry => some entry.2 := by
  induction events using List.reverseRecOn with
  | nil => rfl
  | append_singleton events event ih =>
      rw [run_concat, writes_append]
      cases event with
      | write text => simp [step, writes, Board.write, Board.read]
      | sleep length => simpa [step, writes] using ih

theorem readingAt_of_lt {setup : Setup Handle Instance} {units : Nat} {board : Board}
    {events : List Event} {moment : Nat} (later : elapsed events < moment) :
    readingAt board events moment = (run setup units board events).board.read := by
  have everything : (writes 0 events).filter (·.1 < moment) = writes 0 events := by
    apply List.filter_eq_self.mpr
    intro entry member
    have bound := le_of_mem_writes member
    exact decide_eq_true (by omega)
  rw [readingAt, everything, run_board_read]

theorem readingAt_concat_of_le {board : Board} {events : List Event} {event : Event}
    {moment : Nat} (earlier : moment ≤ elapsed events) :
    readingAt board (events ++ [event]) moment = readingAt board events moment := by
  have unseen : (writes (0 + elapsed events) [event]).filter (·.1 < moment) = [] := by
    apply List.filter_eq_nil_iff.mpr
    intro entry member
    cases event with
    | write text =>
        obtain rfl := List.mem_singleton.mp member
        simpa using earlier
    | sleep length => cases member
  rw [readingAt, writes_append, List.filter_append, unseen, List.append_nil]
  rfl

theorem readingAt_concat_sleep (board : Board) (events : List Event) (length moment : Nat) :
    readingAt board (events ++ [.sleep length]) moment = readingAt board events moment := by
  rw [readingAt, writes_append, writes, writes, List.append_nil]
  rfl

def readings (period : Nat) (board : Board) (events : List Event) : List (Option String) :=
  (List.range (elapsed events / period)).map fun frame =>
    readingAt board events ((frame + 1) * period)

theorem readings_concat_write {period : Nat} (positive : 0 < period) (board : Board)
    (events : List Event) (text : String) :
    readings period board (events ++ [.write text]) = readings period board events := by
  rw [readings, readings, elapsed_concat, Event.length, Nat.add_zero]
  apply List.map_congr_left
  intro frame member
  have passed : frame + 1 ≤ elapsed events / period := List.mem_range.mp member
  exact readingAt_concat_of_le ((Nat.le_div_iff_mul_le positive).mp passed)

theorem readings_concat_sleep (setup : Setup Handle Instance) (units : Nat) {period : Nat}
    (positive : 0 < period) (board : Board) (events : List Event) (length : Nat) :
    readings period board (events ++ [.sleep length]) =
      readings period board events ++
        List.replicate ((elapsed events + length) / period - elapsed events / period)
          (run setup units board events).board.read := by
  have grown : elapsed events / period ≤ (elapsed events + length) / period :=
    Nat.div_le_div_right (Nat.le_add_right _ _)
  rw [readings, readings, elapsed_concat, Event.length, ← Nat.add_sub_cancel' grown,
    List.range_add, List.map_append, Nat.add_sub_cancel_left]
  congr 1
  · apply List.map_congr_left
    intro frame _
    exact readingAt_concat_sleep ..
  · rw [List.map_map]
    apply List.eq_replicate_iff.mpr
    refine ⟨by simp, ?_⟩
    intro reading member
    obtain ⟨frame, -, rfl⟩ := List.mem_map.mp member
    have ahead : elapsed events < (elapsed events / period + frame + 1) * period :=
      (Nat.div_lt_iff_lt_mul positive).mp (by omega)
    exact (readingAt_concat_sleep ..).trans (readingAt_of_lt ahead)

theorem foldl_manual_frames (setup : Setup Handle Instance) (d : Desk Instance) (count : Nat) :
    (List.replicate count .frame).foldl (manual setup) d =
      { d with
        ticker := (List.replicate count d.board.read).foldl (Ticker.frame setup) d.ticker } := by
  induction count generalizing d with
  | zero => rfl
  | succ count ih => rw [List.replicate_succ, List.foldl_cons, ih]; rfl

/-- The clock is on time, and the frames so far are those of the desk driven by hand. -/
structure Keeps (setup : Setup Handle Instance) (period : Nat) (board : Board)
    (events : List Event) (d : Timed Instance) : Prop where
  onTime : d.timer.OnTime
  pace : d.timer.period = period
  now : d.timer.now = elapsed events
  byHand : d.desk = (byHand period 0 events).foldl (manual setup) ⟨board, Ticker.start {}⟩
  watched : d.timer.ticker = Console.watched setup (readings period board events)

theorem run_keeps (setup : Setup Handle Instance) {units : Nat} (positive : 0 < units)
    (board : Board) {events : List Event}
    (away : OffFrames (setup.settings.frameInterval * units) events) :
    Keeps setup (setup.settings.frameInterval * units) board events
      (run setup units board events) := by
  have advances : 0 < setup.settings.frameInterval * units :=
    Nat.mul_pos (Nat.le_max_right _ _) positive
  induction events using List.reverseRecOn with
  | nil =>
      refine ⟨⟨?_, rfl⟩, rfl, rfl, rfl, ?_⟩
      · simp [run, Timer.framesBefore]
      · simp [run, readings, elapsed, Console.watched]
  | append_singleton events event ih =>
      have earlier := away.of_prefix (List.prefix_append events [event])
      have before := ih earlier
      rw [run_concat]
      cases event with
      | write text =>
          refine ⟨before.onTime, before.pace, ?_, ?_, ?_⟩
          · rw [elapsed_concat]
            exact before.now
          · rw [byHand_append, List.foldl_append, ← before.byHand]
            rfl
          · rw [readings_concat_write advances]
            exact before.watched
      | sleep length =>
          have slept := before.onTime.sleep setup (before.pace ▸ advances)
            (run setup units board events).board.read length
          -- both ends of the sleep are off the frames, where the counts are quotients
          have count : Timer.framesBefore (setup.settings.frameInterval * units)
              (elapsed events + length) =
                (elapsed events + length) / (setup.settings.frameInterval * units) := by
            have final := away.framesBefore_eq
            rwa [elapsed_concat] at final
          have frames := slept.ticker
          rw [before.pace, before.now, earlier.framesBefore_eq, count] at frames
          refine ⟨slept.onTime, slept.period.trans before.pace, ?_, ?_, ?_⟩
          · rw [elapsed_concat]
            exact slept.now.trans (congrArg (· + length) before.now)
          · rw [byHand_append, List.foldl_append, ← before.byHand, Nat.zero_add, byHand, byHand,
              List.append_nil, foldl_manual_frames]
            exact congrArg (Desk.mk _) frames
          · have watched := before.watched
            rw [Console.watched] at watched
            rw [readings_concat_sleep setup units advances, Console.watched, List.foldl_append,
              ← watched]
            exact frames

theorem foldl_sleeps (setup : Setup Handle Instance) (d : Timed Instance)
    (parts : List Nat) :
    (parts.map Event.sleep).foldl (step setup) d =
      d.step setup (.sleep (elapsed (parts.map Event.sleep))) := by
  induction parts generalizing d with
  | nil => rfl
  | cons part rest ih =>
      rw [List.map_cons, List.foldl_cons, ih, elapsed]
      simp only [step, Event.length, Timer.sleep_add]

/-- Between two frames nothing depends on the board. -/
theorem foldl_frameless (setup : Setup Handle Instance) {d : Timed Instance}
    (onTime : d.timer.OnTime) (positive : 0 < d.timer.period) {events : List Event}
    (frameless : Timer.framesBefore d.timer.period (d.timer.now + elapsed events) =
      Timer.framesBefore d.timer.period d.timer.now) :
    (events.foldl (step setup) d).timer =
      { d.timer with now := d.timer.now + elapsed events } := by
  induction events generalizing d with
  | nil => rfl
  | cons event rest ih =>
      rw [elapsed, ← Nat.add_assoc] at frameless ⊢
      cases event with
      | write text => exact ih onTime positive frameless
      | sleep length =>
          have slept := onTime.sleep setup positive d.board.read length
          have here : Timer.framesBefore d.timer.period (d.timer.now + length) =
              Timer.framesBefore d.timer.period d.timer.now := by
            have first := Timer.framesBefore_mono d.timer.period d.timer.now length
            have later := Timer.framesBefore_mono d.timer.period (d.timer.now + length)
              (elapsed rest)
            simp only [Event.length] at frameless
            omega
          -- the timer is what it was but for the time, so the rest is frameless as well
          have passed := slept.eq_of_frameless onTime here
          have rested := ih (d := d.step setup (.sleep length)) slept.onTime
            (slept.period ▸ positive) (by
              simp only [step, passed, here]
              exact frameless)
          rw [List.foldl_cons, rested]
          simp only [step, passed, Event.length]

/-- A text that is overwritten before the next frame might as well not have been written. -/
theorem foldl_overwritten (setup : Setup Handle Instance) {d : Timed Instance}
    (onTime : d.timer.OnTime) (positive : 0 < d.timer.period) {middle : List Event}
    (frameless : Timer.framesBefore d.timer.period (d.timer.now + elapsed middle) =
      Timer.framesBefore d.timer.period d.timer.now) (text other : String)
    (after : List Event) :
    (.write text :: (middle ++ .write other :: after)).foldl (step setup) d =
      (middle ++ .write other :: after).foldl (step setup) d := by
  have unread := foldl_frameless setup (d := d.step setup (.write text)) onTime positive
    frameless
  have read := foldl_frameless setup onTime positive frameless
  simp only [List.foldl_cons, List.foldl_append]
  congr 1
  simp only [step] at unread ⊢
  rw [unread, read]
  rfl

/-- A frame loop on a clock does what one does that is driven by hand, with as many frames in
place of each sleep as fall into it.  Each frame reads what was last written before it, so
that sleeps can be split, and a text that is overwritten before the next frame leaves no
trace. -/
theorem frames_keep_time (setup : Setup Handle Instance) {units : Nat} (positive : 0 < units)
    (board : Board) {events : List Event}
    (away : OffFrames (setup.settings.frameInterval * units) events) :
    let period := setup.settings.frameInterval * units
    let d := run setup units board events
    let total := elapsed events
    d.timer.now = total ∧
    d.timer.ticker.ticks = total / period ∧
    d.timer.due = [(total / period + 1) * period] ∧
    d.timer.ticker = Console.watched setup ((List.range (total / period)).map fun frame =>
      readingAt board events ((frame + 1) * period)) ∧
    d.desk = (byHand period 0 events).foldl (manual setup) ⟨board, Ticker.start {}⟩ ∧
    d.timer.ticker.session.Quiet ∧
    (∀ before length after, events = before ++ .sleep length :: after →
      ∀ parts : List Nat, elapsed (parts.map Event.sleep) = length →
        run setup units board (before ++ (parts.map Event.sleep ++ after)) = d) ∧
    ∀ before text middle other after,
      events = before ++ .write text :: (middle ++ .write other :: after) →
      (elapsed before + elapsed middle) / period = elapsed before / period →
      run setup units board (before ++ (middle ++ .write other :: after)) = d := by
  intro period d total
  have advances : 0 < period := Nat.mul_pos (Nat.le_max_right _ _) positive
  have keeps := run_keeps setup positive board away
  have due : d.timer.due = [(total / period + 1) * period] := by
    rw [keeps.onTime.due, keeps.pace, keeps.now, away.framesBefore_eq]
  refine ⟨keeps.now, ?_, due, keeps.watched, keeps.byHand, ?_, ?_, ?_⟩
  · rw [keeps.watched, Console.watched, Ticker.foldl_frame_ticks setup rfl, readings,
      List.length_map, List.length_range]
    exact Nat.zero_add _
  · rw [keeps.watched]
    exact Ticker.foldl_frame_quiet setup ⟨rfl, rfl⟩ _
  · rintro before length after rfl parts rfl
    simp only [d, run, List.foldl_append, List.foldl_cons, foldl_sleeps]
  · rintro before text middle other after rfl frameless
    have earlier := away.of_prefix (List.prefix_append before _)
    have front : before ++ .write text :: middle <+:
        before ++ .write text :: (middle ++ .write other :: after) := by simp
    have between : elapsed (before ++ .write text :: middle) =
        elapsed before + elapsed middle := by
      rw [elapsed_append, elapsed, Event.length, Nat.zero_add]
    have final := (away.of_prefix front).framesBefore_eq
    rw [between, frameless, ← earlier.framesBefore_eq] at final
    have start := run_keeps setup positive board earlier
    rw [← start.pace, ← start.now] at final
    have same := foldl_overwritten setup start.onTime (start.pace ▸ advances) final text other
      after
    simp only [d, run, List.foldl_append] at same ⊢
    exact same.symm

/-- Parties that pause, on the least period there is. -/
def hasty : Setup String Unit :=
  { Setup.leisurely .lastCompleted with settings := { frameIntervalMs := 0 } }

def edits : List Event :=
  [.write "a", .sleep 1, .write "bc", .sleep 2, .write "d", .sleep 4]

/-- Two units make a millisecond.  The first text is overwritten before the first frame, and
the last sleep takes two frames. -/
theorem frames_keep_time_clamped :
    let d := run hasty 2 {} edits
    0 < 2 ∧ OffFrames (hasty.settings.frameInterval * 2) edits ∧
    d.timer.ticker.ticks = 3 ∧
    d.desk = [.write "a", .write "bc", .frame, .write "d", .frame, .frame].foldl
      (manual hasty) ⟨{}, Ticker.start {}⟩ ∧
    run hasty 2 {} (edits.take 5 ++ [.sleep 1, .sleep 2, .sleep 1]) = d ∧
    run hasty 2 {} edits.tail = d ∧
    d.timer.ticker.session.delivered = [(0, .ok .void), (1, .ok .void)] := by
  have away : OffFrames (hasty.settings.frameInterval * 2) edits := by decide
  obtain ⟨-, ticks, -, -, byHand, -, splits, spares⟩ :=
    frames_keep_time hasty (by decide : 0 < 2) {} away
  have crossed : Timed.byHand (hasty.settings.frameInterval * 2) 0 edits =
      [.write "a", .write "bc", .frame, .write "d", .frame, .frame] := by decide
  have count : elapsed edits / (hasty.settings.frameInterval * 2) = 3 := by decide
  rw [crossed] at byHand
  refine ⟨by decide, away, ticks.trans count, byHand,
    splits (edits.take 5) 4 [] rfl [1, 2, 1] rfl, ?_, ?_⟩
  · exact spares [] "a" [.sleep 1] "bc" (edits.drop 3) rfl (by decide)
  · have delivered := congrArg (fun d : Desk Unit => d.ticker.session.delivered) byHand
    exact delivered.trans rfl

end Timed

end Rerun
