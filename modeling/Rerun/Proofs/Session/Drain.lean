import Rerun.Proofs.Desk.Quiescence
import Rerun.Proofs.Session.Pool

/-! The pool run until no cycle can go on.  Whoever goes on has fewer pauses left, so that
all cycles come to their ends. -/

namespace Rerun

variable {Handle Instance : Type}

def Progress.pauses (sandbox : Sandbox Instance) : Progress Instance → Nat
  | paused standing => standing.pauses sandbox
  | ended _ => 0

theorem Progress.pauses_ofCall (sandbox : Sandbox Instance)
    (rest : Pausing (Except Diagnostic Value)) :
    (ofCall rest : Progress Instance).pauses sandbox = rest.pauses := by
  match rest with
  | .paused rest | .done (.error d) | .done (.ok value) => rfl

theorem Standing.pauses_next (sandbox : Sandbox Instance) (standing : Standing Instance) :
    (standing.next sandbox).pauses sandbox + 1 = standing.pauses sandbox := by
  match standing with
  | .calling rest => exact congrArg (· + 1) (Progress.pauses_ofCall sandbox rest)
  | .instantiating size (.done (.error d)) => rfl
  | .instantiating size (.done (.ok program)) =>
      have called := Progress.pauses_ofCall sandbox (sandbox.callMain program)
      simp [Standing.next, called, Standing.pauses, Pausing.pauses, Pausing.result, Nat.add_comm]
  | .instantiating size (.paused rest) =>
      simp only [Standing.next, Progress.pauses, Standing.pauses, Pausing.pauses,
        Pausing.result]
      split <;> omega

namespace Session

theorem pausesLeft_append (sandbox : Sandbox Instance)
    (first second : List (Cycle × Standing Instance)) :
    pausesLeft sandbox (first ++ second) =
      pausesLeft sandbox first + pausesLeft sandbox second := by
  induction first with
  | nil => exact (Nat.zero_add _).symm
  | cons entry rest ih => rw [List.cons_append, pausesLeft, pausesLeft, ih, Nat.add_assoc]

theorem pausesLeft_filter_le (sandbox : Sandbox Instance)
    (entries : List (Cycle × Standing Instance)) (keep : Cycle × Standing Instance → Bool) :
    pausesLeft sandbox (entries.filter keep) ≤ pausesLeft sandbox entries := by
  induction entries with
  | nil => exact Nat.le_refl _
  | cons entry rest ih =>
      rw [List.filter_cons]
      split
      · exact Nat.add_le_add_left ih _
      · exact Nat.le_trans ih (Nat.le_add_left _ _)

theorem pausesLeft_standings (sandbox : Sandbox Instance) (c : Cycle)
    (p : Progress Instance) : pausesLeft sandbox (p.standings c) = p.pauses sandbox := by
  cases p <;> rfl

variable (setup : Setup Handle Instance) {s : Session Instance}

theorem resume_pausesLeft {c : Cycle} {standing : Standing Instance}
    {rest : List (Cycle × Standing Instance)} (waiting : s.suspended = (c, standing) :: rest) :
    pausesLeft setup.sandbox (s.resume setup c.id).suspended <
      pausesLeft setup.sandbox s.suspended := by
  have found : s.suspended.find? (·.1.id == c.id) = some (c, standing) := by simp [waiting]
  have fewer := pausesLeft_filter_le setup.sandbox rest (·.1.id != c.id)
  have next := standing.pauses_next setup.sandbox
  have others : (s.awakened c.id).suspended = rest.filter (·.1.id != c.id) := by
    simp [awakened, waiting]
  -- the cycle leaves its place, and takes the last one if it pauses again
  have left : (s.resume setup c.id).suspended =
      rest.filter (·.1.id != c.id) ++ (standing.next setup.sandbox).standings c := by
    simp only [resume, found, proceed_eq, settle_suspended]
    exact congrArg (· ++ _) others
  rw [left, waiting, pausesLeft_append, pausesLeft_standings, pausesLeft]
  omega

theorem goOn_suspended {turns : Nat} (enough : pausesLeft setup.sandbox s.suspended ≤ turns) :
    (s.goOn setup turns).suspended = [] := by
  induction turns generalizing s with
  | zero =>
      cases waiting : s.suspended with
      | nil => exact waiting
      | cons entry rest =>
          have fewer := resume_pausesLeft setup waiting
          omega
  | succ turns ih =>
      cases waiting : s.suspended with
      | nil => simp [goOn, waiting]
      | cons entry rest =>
          have fewer := resume_pausesLeft setup waiting
          simp only [goOn, waiting]
          exact ih (by omega)

theorem goOn_detected (turns : Nat) : (s.goOn setup turns).detected = s.detected := by
  induction turns generalizing s with
  | zero => rfl
  | succ turns ih =>
      cases waiting : s.suspended with
      | nil => simp [goOn, waiting]
      | cons entry rest => simp only [goOn, waiting, ih, resume_detected]

theorem drain_quiet (s : Session Instance) : (s.drain setup).Quiet := by
  constructor
  · rw [drain, goOn_detected, beginAll_detected]
  · exact goOn_suspended setup (Nat.le_refl _)

end Session

end Rerun
