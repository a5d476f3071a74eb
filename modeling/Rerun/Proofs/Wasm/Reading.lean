import Mathlib.Data.List.Forall2
import Rerun.Wasm.Validation.Module

/-! What a reading of bytes comes to, and what is known of its parts when it does not fail. -/

namespace Rerun.Wasm

namespace Read

variable {α β : Type} {source : ByteArray} {c e : Cursor}

/-- What a reading comes to, and the cursor after it. -/
def result (p : Read α) (source : ByteArray) (c : Cursor) : Except Fault α × Cursor :=
  (p.run source).run.run c

theorem bind_result (p : Read α) (f : α → Read β) (source : ByteArray) (c : Cursor) :
    (p >>= f).result source c =
      match p.result source c with
      | (.ok a, d) => (f a).result source d
      | (.error fault, d) => (.error fault, d) := by
  simp only [result, ReaderT.run_bind, ExceptT.run_bind, StateT.run_bind]
  change (match StateT.run (ExceptT.run (ReaderT.run p source)) c with | (r, d) => _) = _
  cases StateT.run (ExceptT.run (ReaderT.run p source)) c with
  | mk r d => cases r <;> rfl

theorem exists_of_bind {p : Read α} {f : α → Read β} {b : β}
    (ran : (p >>= f).result source c = (.ok b, e)) :
    ∃ a d, p.result source c = (.ok a, d) ∧ (f a).result source d = (.ok b, e) := by
  rw [bind_result] at ran
  cases first : p.result source c with
  | mk r d =>
      rw [first] at ran
      cases r with
      | ok a => exact ⟨a, d, rfl, ran⟩
      | error fault => cases ran

theorem holds_of_require {holds : Bool} {offset : Nat} {message : String} {u : Unit}
    (ran : (require holds offset message).result source c = (.ok u, e)) : holds = true := by
  cases holds with
  | true => rfl
  | false => cases ran

/-- After a step that is only taken under a condition. -/
theorem exists_of_guarded {holds : Prop} [Decidable holds] {p : Read Unit} {next : Unit → Read β}
    {b : β}
    (ran : (if holds then p >>= next else next ()).result source c = (.ok b, e)) :
    ∃ d, (next ()).result source d = (.ok b, e) := by
  split at ran
  · obtain ⟨_, d, -, rest⟩ := exists_of_bind ran
    exact ⟨d, rest⟩
  · exact ⟨c, ran⟩

theorem within_ran {size : Nat} {p : Read α} {a : α}
    (ran : (within size p).result source c = (.ok a, e)) :
    ∃ d f, p.result source d = (.ok a, f) := by
  rw [within] at ran
  obtain ⟨left, d, -, ran⟩ := exists_of_bind ran
  split at ran
  · cases ran
  · obtain ⟨before, d, -, ran⟩ := exists_of_bind ran
    obtain ⟨_, d, -, ran⟩ := exists_of_bind ran
    obtain ⟨found, f, inner, ran⟩ := exists_of_bind ran
    obtain ⟨_, _, -, ran⟩ := exists_of_bind ran
    cases ran
    exact ⟨d, f, inner⟩

/-- Each result of a traversal comes from its own item. -/
theorem mapM_ran {f : α → Read β} {items : List α} {found : List β}
    (ran : (items.mapM f).result source c = (.ok found, e)) :
    List.Forall₂ (fun a b => ∃ d g, (f a).result source d = (.ok b, g)) items found := by
  induction items generalizing found c with
  | nil =>
      cases ran
      exact .nil
  | cons a rest ih =>
      rw [List.mapM_cons] at ran
      obtain ⟨b, d, first, ran⟩ := exists_of_bind ran
      obtain ⟨others, _, more, ran⟩ := exists_of_bind ran
      cases ran
      exact .cons ⟨_, _, first⟩ (ih more)

end Read

/-- What is accepted was read without a fault. -/
theorem Verdict.exists_ran_of_judge {has : Feature → Bool} {found : Encoding × List Module}
    {binary : ByteArray} (accepted : (ofBinary binary).judge has = .ok found) :
    ∃ e, Check.binary.result binary { position := 0, stop := binary.size } = (.ok found, e) := by
  simp only [judge] at accepted
  split at accepted
  next => cases accepted
  next => exact ⟨_, Prod.ext accepted rfl⟩

end Rerun.Wasm
