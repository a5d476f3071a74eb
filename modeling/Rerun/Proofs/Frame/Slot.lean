import Rerun.Frame

/-! A slot for one callback, under requests that come from outside and from callbacks at work.
Whatever is requested runs once, or gives way to a later request, or still waits. -/

namespace Rerun

namespace FrameSlot

variable {κ : Type}

/-- What can be done to a slot.  With a fire comes what a callback requests while it runs. -/
inductive Move (κ : Type)
  | request (callback : κ)
  | fire (requests : κ → List κ)

inductive Event (κ : Type)
  | requested (callback : κ)
  | replaced (callback : κ)
  | ran (callback : κ)
  /-- A fire found nothing armed. -/
  | idle
deriving DecidableEq

/-- What a fire gives back: the callback that it ran, if there was one. -/
def Event.answer? : Event κ → Option (Option κ)
  | ran callback => some (some callback)
  | idle => some none
  | requested _ | replaced _ => none

def step (slot : FrameSlot κ) : Move κ → FrameSlot κ
  | .request callback => slot.request callback
  | .fire requests => (slot.fire requests).2

def run (slot : FrameSlot κ) (moves : List (Move κ)) : FrameSlot κ := moves.foldl step slot

/-- What happens when callbacks are requested one after another. -/
def asked (slot : FrameSlot κ) : List κ → List (Event κ)
  | [] => []
  | callback :: rest =>
      slot.pending.toList.map .replaced ++
        .requested callback :: (slot.request callback).asked rest

def happened (slot : FrameSlot κ) : Move κ → List (Event κ)
  | .request callback => slot.asked [callback]
  | .fire requests =>
      match (slot.fire requests).1 with
      | none => [.idle]
      | some callback => .ran callback :: asked {} (requests callback)

def history (slot : FrameSlot κ) : List (Move κ) → List (Event κ)
  | [] => []
  | move :: rest => slot.happened move ++ (slot.step move).history rest

@[simp] theorem fire_none (requests : κ → List κ) :
    fire {} requests = (none, {}) := rfl

@[simp] theorem fire_some (callback : κ) (requests : κ → List κ) :
    fire ⟨some callback⟩ requests =
      (some callback, (requests callback).foldl request {}) := rfl

theorem fire_fst (slot : FrameSlot κ) (requests : κ → List κ) :
    (slot.fire requests).1 = slot.pending := by
  obtain ⟨pending⟩ := slot
  cases pending <;> rfl

theorem pending_foldl_request (slot : FrameSlot κ) (callbacks : List κ) :
    (callbacks.foldl request slot).pending = callbacks.getLast?.or slot.pending := by
  induction callbacks generalizing slot with
  | nil => rfl
  | cons callback rest ih =>
      rw [List.foldl_cons, ih, List.getLast?_cons]
      cases rest.getLast? <;> rfl

theorem fire_snd_pending (slot : FrameSlot κ) (requests : κ → List κ) :
    (slot.fire requests).2.pending =
      slot.pending.bind fun callback => (requests callback).getLast? := by
  obtain ⟨pending⟩ := slot
  cases pending with
  | none => rfl
  | some callback =>
      rw [fire_some, pending_foldl_request, Option.or_none]
      rfl

section Waits

/-- The callback was the last to be requested, and has not been taken since. -/
def Waits (events : List (Event κ)) (callback : κ) : Prop :=
  ∃ before after, events = before ++ .requested callback :: after ∧ ∀ e ∈ after, e = .idle

theorem not_waits_nil (callback : κ) : ¬Waits [] callback := by
  rintro ⟨before, after, split, -⟩
  cases before <;> cases split

theorem waits_concat {events : List (Event κ)} {e : Event κ} {callback : κ} :
    Waits (events ++ [e]) callback ↔
      e = .requested callback ∨ e = .idle ∧ Waits events callback := by
  constructor
  · rintro ⟨before, after, split, quiet⟩
    rcases List.eq_nil_or_concat after with rfl | ⟨after, last, rfl⟩
    · exact .inl (List.singleton_inj.mp (List.append_inj' split rfl).2)
    · rw [List.concat_eq_append] at split quiet
      rw [← List.cons_append, ← List.append_assoc] at split
      obtain ⟨rfl, same⟩ := List.append_inj' split rfl
      obtain rfl := List.singleton_inj.mp same
      refine .inr ⟨quiet e (by simp), before, after, rfl, fun other member => ?_⟩
      exact quiet other (List.mem_append_left _ member)
  · rintro (rfl | ⟨rfl, before, after, rfl, quiet⟩)
    · exact ⟨events, [], rfl, nofun⟩
    · refine ⟨before, after ++ [.idle], by simp, fun other member => ?_⟩
      rcases List.mem_append.mp member with early | last
      · exact quiet other early
      · exact List.mem_singleton.mp last

/-- What is armed is what waits. -/
def Agrees (slot : FrameSlot κ) (events : List (Event κ)) : Prop :=
  ∀ callback, slot.pending = some callback ↔ Waits events callback

variable {slot : FrameSlot κ} {events : List (Event κ)}

theorem agrees_nil : Agrees ({} : FrameSlot κ) [] := fun callback =>
  iff_of_false nofun (not_waits_nil callback)

theorem Agrees.request (callback : κ) :
    (slot.request callback).Agrees (events ++ [.requested callback]) := by
  intro other
  simp [waits_concat, FrameSlot.request]

theorem Agrees.asked (agrees : slot.Agrees events) (callbacks : List κ) :
    (callbacks.foldl FrameSlot.request slot).Agrees (events ++ slot.asked callbacks) := by
  induction callbacks generalizing slot events with
  | nil => simpa [FrameSlot.asked] using agrees
  | cons callback rest ih =>
      have armed : (slot.request callback).Agrees
          ((events ++ slot.pending.toList.map .replaced) ++ [.requested callback]) :=
        Agrees.request callback
      simpa [FrameSlot.asked] using ih armed

theorem Agrees.happened (agrees : slot.Agrees events) (move : Move κ) :
    (slot.step move).Agrees (events ++ slot.happened move) := by
  cases move with
  | request callback => exact agrees.asked [callback]
  | fire requests =>
      obtain ⟨pending⟩ := slot
      cases pending with
      | none =>
          intro callback
          refine (agrees callback).trans ?_
          change _ ↔ Waits (events ++ [.idle]) callback
          simp [waits_concat]
      | some callback =>
          have taken : Agrees {} (events ++ [.ran callback]) := fun other => by
            simp [waits_concat]
          have next := taken.asked (requests callback)
          rwa [List.append_assoc] at next

theorem Agrees.history (agrees : slot.Agrees events) (moves : List (Move κ)) :
    (slot.run moves).Agrees (events ++ slot.history moves) := by
  induction moves generalizing slot events with
  | nil => simpa [FrameSlot.history, FrameSlot.run] using agrees
  | cons move rest ih =>
      rw [FrameSlot.history, ← List.append_assoc]
      exact ih (agrees.happened move)

end Waits

section Count

variable [DecidableEq κ] (slot : FrameSlot κ) (callback : κ)

/-- The account of a callback: its requests, with what was armed at first, are its runs, the
times it was replaced, and what is armed in the end. -/
def Balanced (first last : FrameSlot κ) (events : List (Event κ)) : Prop :=
  events.count (.requested callback) + first.pending.toList.count callback =
    events.count (.ran callback) + events.count (.replaced callback) +
      last.pending.toList.count callback

variable {callback}

theorem Balanced.append {first middle last : FrameSlot κ} {events more : List (Event κ)}
    (early : Balanced callback first middle events) (late : Balanced callback middle last more) :
    Balanced callback first last (events ++ more) := by
  unfold Balanced at *
  simp only [List.count_append]
  omega

theorem balanced_requested (other : κ) :
    Balanced callback slot (slot.request other)
      (slot.pending.toList.map .replaced ++ [.requested other]) := by
  obtain ⟨pending⟩ := slot
  cases pending with
  | none => simp [Balanced, request, List.count_singleton]
  | some waiting =>
      simp [Balanced, request, List.count_cons]
      omega

theorem balanced_asked (callbacks : List κ) :
    Balanced callback slot (callbacks.foldl request slot) (slot.asked callbacks) := by
  induction callbacks generalizing slot with
  | nil => simp [Balanced, asked]
  | cons other rest ih =>
      have next := (balanced_requested slot other).append (ih (slot.request other))
      simpa [asked] using next

theorem balanced_happened (move : Move κ) :
    Balanced callback slot (slot.step move) (slot.happened move) := by
  cases move with
  | request other => exact balanced_asked slot [other]
  | fire requests =>
      obtain ⟨pending⟩ := slot
      cases pending with
      | none => simp [Balanced, happened, step]
      | some other =>
          have taken : Balanced callback ⟨some other⟩ {} [.ran other] := by
            simp [Balanced, List.count_singleton]
          exact taken.append (balanced_asked {} (requests other))

theorem balanced_history (moves : List (Move κ)) :
    Balanced callback slot (slot.run moves) (slot.history moves) := by
  induction moves generalizing slot with
  | nil => simp [Balanced, history, run]
  | cons move rest ih => exact (balanced_happened slot move).append (ih (slot.step move))

/-- What neither waits nor is requested does not run. -/
theorem ran_not_mem_history {moves : List (Move κ)} (idle : slot.pending ≠ some callback)
    (unasked : .requested callback ∉ slot.history moves) :
    .ran callback ∉ slot.history moves := by
  have balanced : Balanced callback slot (slot.run moves) (slot.history moves) :=
    balanced_history slot moves
  have absent : slot.pending.toList.count callback = 0 :=
    List.count_eq_zero_of_not_mem (by simpa using idle)
  rw [Balanced, List.count_eq_zero_of_not_mem unasked, absent] at balanced
  apply List.count_eq_zero.mp
  omega

end Count

section Repeating

theorem history_idle (requests : κ → List κ) (count : Nat) :
    history {} (List.replicate count (.fire requests)) = List.replicate count .idle := by
  induction count with
  | zero => rfl
  | succ count ih =>
      rw [List.replicate_succ, List.replicate_succ, ← ih]
      rfl

/-- A callback that arms itself again a number of times runs once more often than that. -/
theorem answers_repeating (id again more : Nat) :
    (history ⟨some ⟨id, again⟩⟩
        (List.replicate (again + 1 + more) (.fire Repeating.requests))).filterMap Event.answer? =
      (List.range (again + 1)).map (fun k => some ⟨id, again - k⟩) ++
        List.replicate more none := by
  induction again with
  | zero =>
      rw [Nat.add_right_comm, List.replicate_succ]
      change some (⟨id, 0⟩ : Repeating) ::
        (history {} (List.replicate (0 + more) (.fire Repeating.requests))).filterMap _ = _
      rw [history_idle, Nat.zero_add, List.filterMap_replicate]
      rfl
  | succ again ih =>
      rw [Nat.add_right_comm, List.replicate_succ]
      change some (⟨id, again + 1⟩ : Repeating) ::
        (history ⟨some ⟨id, again⟩⟩
          (List.replicate (again + 1 + more) (.fire Repeating.requests))).filterMap _ = _
      rw [ih, List.range_succ_eq_map (n := again + 1)]
      simp [Function.comp_def]

end Repeating

/-- A fire runs the callback that was requested last, if it has not been taken yet, and tells
whether there was one.  Then the last one that this callback requested is armed, or none.  Each
request is answered by one run, or gives way to the next request, or still waits; so what was
taken or gave way does not run, unless it is requested once more.  A callback that arms itself
again a number of times makes for as many fires that run it and one more, and no later fire
runs anything. -/
theorem slot_runs_last_request [DecidableEq κ] (moves : List (Move κ)) :
    let slot : FrameSlot κ := run {} moves
    let events : List (Event κ) := history {} moves
    (∀ requests callback,
      (slot.fire requests).1 = some callback ↔ Waits events callback) ∧
    (∀ requests, (slot.fire requests).1.isSome ↔ ∃ callback, Waits events callback) ∧
    (∀ requests, (slot.fire requests).2.pending =
      (slot.fire requests).1.bind fun callback => (requests callback).getLast?) ∧
    (∀ callback, events.count (.requested callback) =
      events.count (.ran callback) + events.count (.replaced callback) +
        slot.pending.toList.count callback) ∧
    (∀ callback later, ¬Waits events callback → .requested callback ∉ slot.history later →
      .ran callback ∉ slot.history later) ∧
    (∀ callback other later, other ≠ callback →
      .requested callback ∉ (slot.request other).history later →
        .ran callback ∉ (slot.request other).history later) ∧
    ∀ (frames : FrameSlot Repeating) (id again more : Nat),
      ((frames.request ⟨id, again⟩).history
        (List.replicate (again + 1 + more) (.fire Repeating.requests))).filterMap
          Event.answer? =
        (List.range (again + 1)).map (fun k => some ⟨id, again - k⟩) ++
          List.replicate more none := by
  intro slot events
  have agrees : slot.Agrees events := agrees_nil.history moves
  refine ⟨fun requests callback => ?_, fun requests => ?_, fun requests => ?_,
    fun callback => ?_, ?_, ?_, ?_⟩
  · rw [fire_fst]
    exact agrees callback
  · rw [fire_fst, Option.isSome_iff_exists]
    exact exists_congr agrees
  · rw [fire_fst, fire_snd_pending]
  · exact balanced_history {} moves
  · intro callback later absent unasked
    exact ran_not_mem_history slot (mt (agrees callback).mp absent) unasked
  · intro callback other later different unasked
    apply ran_not_mem_history _ _ unasked
    intro same
    exact different (Option.some.inj same)
  · intro frames id again more
    exact answers_repeating id again more

/-- The second of two requests is run, and then what it requests last; the first never is. -/
theorem slot_runs_last_request_replaced :
    let moves : List (Move Nat) := [.request 1, .request 2]
    let later : List (Move Nat) := [.fire fun _ => [3, 4], .fire fun _ => [], .fire fun _ => []]
    let slot : FrameSlot Nat := run {} moves
    ¬Waits (history {} moves) 1 ∧ .requested 1 ∉ slot.history later ∧
      .ran 1 ∉ slot.history later ∧ Waits (history {} moves) 2 ∧
      (slot.history later).filterMap Event.answer? = [some 2, some 4, none] := by
  intro moves later slot
  obtain ⟨taken, -, -, -, quiet, -⟩ := slot_runs_last_request moves
  have absent : ¬Waits (history {} moves) 1 := fun waits =>
    absurd ((taken (fun _ => []) 1).mpr waits) (by decide)
  have unasked : .requested 1 ∉ slot.history later := by decide
  exact ⟨absent, unasked, quiet 1 later absent unasked, (taken (fun _ => []) 2).mp rfl, by decide⟩

end FrameSlot

end Rerun
