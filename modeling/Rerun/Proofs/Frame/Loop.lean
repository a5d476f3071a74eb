import Rerun.Frame

/-! A frame loop around any host.  A tick is made as in a session's own loop: the next frame
is armed, the host is called, and the task that it may return is spawned. -/

namespace Rerun

/-- What a host does when it is called.  It is shown whether a frame is armed. -/
abbrev Watch (Host Task : Type) := FrameSlot Unit → Host → Option Task × Host

/-- A call of the host: the frames it was shown, and the task it returned. -/
structure Visit (Task : Type) where
  found : FrameSlot Unit
  task? : Option Task

structure Loop (Host Task : Type) where
  host : Host
  frames : FrameSlot Unit := {}
  ticks : Nat := 0
  spawned : List Task := []
  visits : List (Visit Task) := []

namespace Loop

variable {Host Task : Type}

/-- What can happen to a loop.  In a shift of the host, tasks go on and texts change.  What a
task does to the loop itself comes as an event of its own. -/
inductive Event (Host : Type)
  | start
  | fire
  | tick
  | shift (change : Host → Host)

namespace Event

def isTick : Event Host → Bool
  | tick => true
  | _ => false

/-- A fire arms nothing on its own: it needs a frame to be armed. -/
def arms : Event Host → Bool
  | start | tick => true
  | _ => false

end Event

def start (l : Loop Host Task) : Loop Host Task :=
  { l with frames := l.frames.request () }

def work (watch : Watch Host Task) (l : Loop Host Task) : Loop Host Task :=
  let (task?, host) := watch l.frames l.host
  { l with
    host
    ticks := l.ticks + 1
    spawned := l.spawned ++ task?.toList
    visits := l.visits ++ [⟨l.frames, task?⟩] }

def tick (watch : Watch Host Task) (l : Loop Host Task) : Loop Host Task :=
  l.start.work watch

def fire (watch : Watch Host Task) (l : Loop Host Task) : Bool × Loop Host Task :=
  match l.frames.fire fun _ => [()] with
  | (none, _) => (false, l)
  | (some _, frames) => (true, { l with frames }.work watch)

def step (watch : Watch Host Task) (l : Loop Host Task) : Event Host → Loop Host Task
  | .start => l.start
  | .fire => (l.fire watch).2
  | .tick => l.tick watch
  | .shift change => { l with host := change l.host }

def run (watch : Watch Host Task) (host : Host) (events : List (Event Host)) :
    Loop Host Task :=
  events.foldl (step watch) { host }

def answer? (watch : Watch Host Task) (l : Loop Host Task) : Event Host → Option Bool
  | .fire => some (l.fire watch).1
  | _ => none

/-- What the fires among the events return. -/
def answers (watch : Watch Host Task) : Loop Host Task → List (Event Host) → List Bool
  | _, [] => []
  | l, e :: rest => (l.answer? watch e).toList ++ answers watch (l.step watch e) rest

theorem start_of_isArmed {l : Loop Host Task} (armed : l.frames.isArmed) : l.start = l := by
  obtain ⟨host, ⟨pending⟩, ticks, spawned, visits⟩ := l
  cases pending with
  | none => cases armed
  | some callback => rfl

/-- To fire an armed frame is to tick. -/
theorem fire_eq (watch : Watch Host Task) (l : Loop Host Task) :
    l.fire watch = if l.frames.isArmed then (true, l.tick watch) else (false, l) := by
  obtain ⟨host, ⟨pending⟩, ticks, spawned, visits⟩ := l
  cases pending <;> rfl

theorem step_isArmed (watch : Watch Host Task) (l : Loop Host Task) (e : Event Host) :
    (l.step watch e).frames.isArmed = (l.frames.isArmed || e.arms) := by
  cases e with
  | fire =>
      rw [step, fire_eq]
      cases armed : l.frames.isArmed with
      | false => exact armed
      | true => rfl
  | shift change => exact (Bool.or_false _).symm
  | start | tick => exact (Bool.or_true _).symm

theorem step_ticks (watch : Watch Host Task) (l : Loop Host Task) (e : Event Host) :
    (l.step watch e).ticks =
      l.ticks + (l.answer? watch e).toList.count true + if e.isTick then 1 else 0 := by
  cases e with
  | fire =>
      rw [step, answer?, fire_eq]
      cases l.frames.isArmed <;> rfl
  | start | tick | shift change => rfl

theorem foldl_isArmed (watch : Watch Host Task) (l : Loop Host Task)
    (events : List (Event Host)) :
    (events.foldl (step watch) l).frames.isArmed =
      (l.frames.isArmed || events.any Event.arms) := by
  induction events generalizing l with
  | nil => exact (Bool.or_false _).symm
  | cons e rest ih => rw [List.foldl_cons, ih, step_isArmed, List.any_cons, Bool.or_assoc]

theorem foldl_ticks (watch : Watch Host Task) (l : Loop Host Task)
    (events : List (Event Host)) :
    (events.foldl (step watch) l).ticks =
      l.ticks + (l.answers watch events).count true + events.countP Event.isTick := by
  induction events generalizing l with
  | nil => rfl
  | cons e rest ih =>
      rw [List.foldl_cons, ih, step_ticks, answers, List.count_append, List.countP_cons]
      omega

/-- The host is called once in a tick, and finds the next frame armed. -/
structure Orderly (l : Loop Host Task) : Prop where
  visited : l.visits.length = l.ticks
  armed : ∀ visit ∈ l.visits, visit.found.isArmed
  spawned : l.spawned = l.visits.filterMap (·.task?)

section Orderly

variable {l : Loop Host Task} (watch : Watch Host Task)

theorem Orderly.start (orderly : l.Orderly) : l.start.Orderly :=
  ⟨orderly.visited, orderly.armed, orderly.spawned⟩

theorem Orderly.work (orderly : l.Orderly) (armed : l.frames.isArmed) :
    (l.work watch).Orderly := by
  constructor
  · simp only [Loop.work, List.length_append, List.length_singleton, orderly.visited]
  · simp only [Loop.work, List.forall_mem_append, List.forall_mem_singleton]
    exact ⟨orderly.armed, armed⟩
  · simp only [Loop.work, List.filterMap_append, orderly.spawned]
    cases (watch l.frames l.host).1 <;> simp

theorem Orderly.step (orderly : l.Orderly) (e : Event Host) : (l.step watch e).Orderly := by
  have tick : (l.tick watch).Orderly := orderly.start.work watch rfl
  cases e with
  | start => exact orderly.start
  | fire =>
      rw [Loop.step, fire_eq]
      cases l.frames.isArmed with
      | false => exact orderly
      | true => exact tick
  | tick => exact tick
  | shift change => exact ⟨orderly.visited, orderly.armed, orderly.spawned⟩

theorem Orderly.foldl (orderly : l.Orderly) (events : List (Event Host)) :
    (events.foldl (Loop.step watch) l).Orderly := by
  induction events generalizing l with
  | nil => exact orderly
  | cons e rest ih => exact ih (orderly.step watch e)

end Orderly

end Loop

end Rerun
