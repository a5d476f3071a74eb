import Rerun.Frame
import Rerun.Session

/-! The frame loop.  A tick arms the next frame before it does any work, reads the
text once, and leaves a detected cycle to the pool. -/

namespace Rerun

structure Ticker (Instance : Type) where
  session : Session Instance := {}
  frames : FrameSlot Unit := {}
  ticks : Nat := 0

namespace Ticker

variable {Handle Instance : Type}

def start (t : Ticker Instance) : Ticker Instance :=
  { t with frames := t.frames.request () }

/-- What a tick does once the next frame is armed. -/
def work (t : Ticker Instance) (reading : Option String) : Ticker Instance :=
  { t with ticks := t.ticks + 1, session := (t.session.detect reading).2 }

def tick (t : Ticker Instance) (reading : Option String) : Ticker Instance :=
  t.start.work reading

/-- Runs the armed frame, if there is one: the callback is a tick, and the one
frame it requests is the next. -/
def fire (t : Ticker Instance) (reading : Option String) : Bool × Ticker Instance :=
  match t.frames.fire fun _ => [()] with
  | (none, _) => (false, t)
  | (some _, frames) => (true, { t with frames }.work reading)

/-- Runs the pool until every cycle is done or waits. -/
def run (setup : Setup Handle Instance) (t : Ticker Instance) : Ticker Instance :=
  { t with session := t.session.beginAll setup }

/-- Lets the cycle held at a pause go on, if one is; the pool is run either way. -/
def release (setup : Setup Handle Instance) (t : Ticker Instance) (index : Nat) :
    Bool × Ticker Instance :=
  match t.session.heldAt index with
  | none => (false, t.run setup)
  | some id => (true, { t with session := t.session.resume setup id }.run setup)

/-- Runs the armed frame, and then the pool until no cycle can go on. -/
def frame (setup : Setup Handle Instance) (t : Ticker Instance)
    (reading : Option String) : Ticker Instance :=
  let t := (t.fire reading).2
  { t with session := t.session.drain setup }

end Ticker

/-- A frame loop on a clock, which moves only while everything waits.  Whoever asks for a
frame sleeps for a period; the first frame has been asked for. -/
structure Timer (Instance : Type) where
  period : Nat
  now : Nat := 0
  /-- When the sleeps end that have begun, in the order they began. -/
  due : List Nat := [now + period]
  ticker : Ticker Instance := Ticker.start {}

namespace Timer

variable {Handle Instance : Type}

def request (t : Timer Instance) : Timer Instance :=
  { t with due := t.due ++ [t.now + t.period] }

/-- The next frame is asked for before any work is done.  Cycles take no time. -/
def tick (setup : Setup Handle Instance) (t : Timer Instance) (reading : Option String) :
    Timer Instance :=
  let t := t.request
  let ticker := t.ticker.work reading
  { t with ticker := { ticker with session := ticker.session.drain setup } }

/-- What sleeps until now wakes, and the clock moves on by one. -/
def pass (setup : Setup Handle Instance) (t : Timer Instance) (reading : Option String) :
    Timer Instance :=
  let woken := t.due.filter (· == t.now)
  let t := { t with due := t.due.filter (· != t.now) }
  let t := woken.foldl (fun t _ => t.tick setup reading) t
  { t with now := t.now + 1 }

/-- Moves the clock on by a length of time; a frame at the very end is still to come. -/
def sleep (setup : Setup Handle Instance) (t : Timer Instance) (reading : Option String) :
    Nat → Timer Instance
  | 0 => t
  | length + 1 => (t.pass setup reading).sleep setup reading length

end Timer

end Rerun
