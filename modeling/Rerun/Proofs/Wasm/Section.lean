import Mathlib
import Rerun.Proofs.Wasm.Reading

/-! What the items of a section leave behind.  While they are read, nothing but the context
changes, and the context only learns of the functions that the items bring. -/

namespace Rerun.Wasm

/-- What a reading with a state gives when it does not fail, and the state after it: it does
so for some bytes. -/
def Gives {σ α : Type} (p : StateT σ Read α) (s : σ) (a : α) (t : σ) : Prop :=
  ∃ source c e, (p.run s).result source c = (.ok (a, t), e)

namespace Gives

variable {σ α β : Type} {s t : σ} {a : α} {b : β}

theorem bind {p : StateT σ Read α} {f : α → StateT σ Read β} (gives : Gives (p >>= f) s b t) :
    ∃ a u, Gives p s a u ∧ Gives (f a) u b t := by
  obtain ⟨source, c, e, ran⟩ := gives
  rw [StateT.run_bind] at ran
  obtain ⟨⟨a, u⟩, d, first, rest⟩ := Read.exists_of_bind ran
  exact ⟨a, u, ⟨source, c, d, first⟩, ⟨source, d, e, rest⟩⟩

theorem pure {found : α} (gives : Gives (pure a : StateT σ Read α) s found t) :
    a = found ∧ s = t := by
  obtain ⟨source, c, e, ran⟩ := gives
  cases ran
  exact ⟨rfl, rfl⟩

theorem lift {p : Read α} (gives : Gives (liftM p : StateT σ Read α) s a t) :
    s = t ∧ ∃ source c e, p.result source c = (.ok a, e) := by
  obtain ⟨source, c, e, ran⟩ := gives
  change ((p >>= fun a => Pure.pure (a, s)) : Read (α × σ)).result source c = _ at ran
  obtain ⟨found, d, first, rest⟩ := Read.exists_of_bind ran
  cases rest
  exact ⟨rfl, source, c, _, first⟩

theorem get {found : σ} (gives : Gives (MonadState.get : StateT σ Read σ) s found t) :
    s = found ∧ s = t := by
  obtain ⟨source, c, e, ran⟩ := gives
  cases ran
  exact ⟨rfl, rfl⟩

theorem modify {f : σ → σ} {u : Unit}
    (gives : Gives (modify f : StateT σ Read Unit) s u t) : t = f s := by
  obtain ⟨source, c, e, ran⟩ := gives
  cases ran
  rfl

theorem set {next : σ} {u : PUnit}
    (gives : Gives (MonadStateOf.set next : StateT σ Read PUnit) s u t) : t = next := by
  obtain ⟨source, c, e, ran⟩ := gives
  cases ran
  rfl

theorem lift_bind {p : Read α} {f : α → StateT σ Read β} (gives : Gives (liftM p >>= f) s b t) :
    ∃ a, (∃ source c e, p.result source c = (.ok a, e)) ∧ Gives (f a) s b t := by
  obtain ⟨a, u, lifted, rest⟩ := bind gives
  obtain ⟨rfl, ran⟩ := lift lifted
  exact ⟨a, ran, rest⟩

theorem get_bind {f : σ → StateT σ Read β}
    (gives : Gives ((MonadState.get : StateT σ Read σ) >>= f) s b t) : Gives (f s) s b t := by
  obtain ⟨found, u, first, rest⟩ := bind gives
  obtain ⟨rfl, rfl⟩ := get first
  exact rest

/-- A step that is only taken under a condition, and may be one that leaves the state. -/
theorem guarded {holds : Prop} [Decidable holds] {p : StateT σ Read Unit}
    {next : Unit → StateT σ Read β}
    (gives : Gives (if holds then p >>= next else next ()) s b t) :
    ∃ u, (if holds then Gives p s () u else s = u) ∧ Gives (next ()) u b t := by
  split at gives
  next true =>
      obtain ⟨_, u, first, rest⟩ := bind gives
      exact ⟨u, by rwa [if_pos true], rest⟩
  next false => exact ⟨s, by rw [if_neg false], gives⟩

theorem guarded_lift {holds : Prop} [Decidable holds] {p : Read Unit}
    {next : Unit → StateT σ Read β}
    (gives : Gives (if holds then liftM p >>= next else next ()) s b t) :
    Gives (next ()) s b t := by
  obtain ⟨u, taken, rest⟩ := guarded gives
  split at taken
  · obtain ⟨rfl, -⟩ := lift taken
    exact rest
  · subst taken
    exact rest

theorem failAt {offset : Nat} {message : String} :
    ¬Gives (liftM (Read.failAt offset message : Read α) : StateT σ Read α) s a t := by
  intro gives
  obtain ⟨-, _, _, _, ran⟩ := lift gives
  cases ran

theorem unknownSection {id : UInt8} {size : Nat} :
    ¬Gives (liftM (Check.unknownSection id size : Read α) : StateT σ Read α) s a t := by
  intro gives
  obtain ⟨-, _, _, _, ran⟩ := lift gives
  obtain ⟨_, _, -, ran⟩ := Read.exists_of_bind ran
  obtain ⟨_, _, -, ran⟩ := Read.exists_of_bind ran
  cases ran

end Gives

/-! The context -/

namespace Context

@[simp] theorem addGroup_functions (ctx : Context) (types : List (SubType Nat)) :
    (ctx.addGroup types).functions = ctx.functions := by
  simp only [addGroup]

@[simp] theorem declare_functions (ctx : Context) (function : Nat) :
    (ctx.declare function).functions = ctx.functions := rfl

end Context

namespace Constant

theorem check_functions {declares : Bool} {ctx found : Context} {code : List Read.Located}
    {s t : BodyState} (gives : Gives (check declares ctx code) s found t) :
    found.functions = ctx.functions := by
  induction code generalizing ctx s with
  | nil =>
      obtain ⟨rfl, -⟩ := Gives.pure gives
      rfl
  | cons i rest ih =>
      obtain ⟨_, _, -, gives⟩ := Gives.bind gives
      obtain ⟨_, _, -, gives⟩ := Gives.bind gives
      obtain ⟨_, _, -, gives⟩ := Gives.bind gives
      rw [ih gives]
      cases declares with
      | false => rfl
      | true =>
          simp only [if_true, declaredBy]
          split <;> simp

theorem validate_functions {ctx found : Context} {declares : Bool} {type : ValType Nat}
    {code : List Read.Located} {source : ByteArray} {c e : Cursor}
    (ran : (validate ctx declares type code).result source c = (.ok found, e)) :
    found.functions = ctx.functions := by
  rw [validate] at ran
  obtain ⟨⟨checked, t⟩, _, first, ran⟩ := Read.exists_of_bind ran
  cases ran
  exact check_functions ⟨source, c, _, first⟩

end Constant

theorem Check.recGroup_functions {ctx found : Context} {offset : Nat} {g : RecGroup}
    {source : ByteArray} {c e : Cursor}
    (ran : (recGroup ctx offset g).result source c = (.ok found, e)) :
    found.functions = ctx.functions := by
  unfold recGroup at ran
  obtain ⟨d, ran⟩ := Read.exists_of_guarded ran
  obtain ⟨_, _, -, ran⟩ := Read.exists_of_bind ran
  obtain ⟨_, _, -, ran⟩ := Read.exists_of_bind ran
  cases ran
  exact Context.addGroup_functions ctx g.types

namespace CheckModule

variable {α β : Type} {s t u : Progress} {offset : Nat}

/-- Nothing but the context changes, and it learns of so many functions. -/
structure Adds (count : Nat) (s t : Progress) : Prop where
  same : t = { s with context := t.context }
  functions : t.context.functions.size = s.context.functions.size + count

namespace Adds

theorem refl (s : Progress) : Adds 0 s s := ⟨rfl, rfl⟩

theorem trans {n m : Nat} (first : Adds n s t) (rest : Adds m t u) : Adds (n + m) s u := by
  constructor
  · rw [rest.same, first.same]
  · rw [rest.functions, first.functions, Nat.add_assoc]

/-- The context with as many functions. -/
theorem ofContext {ctx : Context} (same : ctx.functions = s.context.functions) :
    Adds 0 s { s with context := ctx } :=
  ⟨rfl, by rw [same, Nat.add_zero]⟩

end Adds

theorem context_bind {f : Context → CheckModule β} {b : β} (gives : Gives (context >>= f) s b t) :
    Gives (f s.context) s b t := by
  obtain ⟨ctx, u, known, rest⟩ := Gives.bind gives
  replace known := Gives.get_bind known
  obtain ⟨rfl, rfl⟩ := Gives.pure known
  exact rest

theorem eq_of_updateContext {f : Context → Context} {r : Unit}
    (gives : Gives (updateContext f) s r t) : t = { s with context := f s.context } :=
  Gives.modify gives

/-- A check that brings no function, whatever it reads. -/
structure Steady (p : CheckModule α) : Prop where
  adds : ∀ {s a t}, Gives p s a t → Adds 0 s t

namespace Steady

theorem pure (a : α) : Steady (pure a) := by
  constructor
  intro s b t gives
  obtain ⟨-, rfl⟩ := Gives.pure gives
  exact .refl s

theorem lift (p : Read α) : Steady (liftM p) := by
  constructor
  intro s a t gives
  obtain ⟨rfl, -⟩ := Gives.lift gives
  exact .refl s

theorem bind {p : CheckModule α} {f : α → CheckModule β} (first : Steady p)
    (rest : ∀ a, Steady (f a)) : Steady (p >>= f) := by
  constructor
  intro s b t gives
  obtain ⟨a, u, one, more⟩ := Gives.bind gives
  exact (first.adds one).trans ((rest a).adds more)

theorem ite {holds : Prop} [Decidable holds] {p q : CheckModule α} (one : Steady p)
    (other : Steady q) : Steady (if holds then p else q) := by
  split
  · exact one
  · exact other

theorem mapM {f : α → CheckModule β} (each : ∀ a, Steady (f a)) (items : List α) :
    Steady (items.mapM f) := by
  induction items with
  | nil => exact pure []
  | cons a rest ih =>
      rw [List.mapM_cons]
      exact (each a).bind fun _ => ih.bind fun _ => pure _

theorem get : Steady (MonadState.get : CheckModule Progress) := by
  constructor
  intro s p t gives
  obtain ⟨-, rfl⟩ := Gives.get gives
  exact .refl s

theorem context : Steady context := get.bind fun _ => pure _

theorem updateContext {f : Context → Context}
    (same : ∀ ctx, (f ctx).functions = ctx.functions) : Steady (updateContext f) := by
  constructor
  intro s r t gives
  rw [eq_of_updateContext gives]
  exact .ofContext (same s.context)

theorem constant (type : ValType Nat) (code : List Read.Located) :
    Steady (constant type code) := by
  constructor
  intro s found t gives
  replace gives := Gives.get_bind gives
  obtain ⟨checked, ⟨_, _, _, ran⟩, gives⟩ := Gives.lift_bind gives
  obtain ⟨_, u, changed, gives⟩ := Gives.bind gives
  obtain ⟨-, rfl⟩ := Gives.pure gives
  rw [Gives.modify changed]
  exact .ofContext (Constant.validate_functions ran)

theorem recGroup (offset : Nat) : Steady (recGroup offset) := by
  constructor
  intro s found t gives
  obtain ⟨group, -, gives⟩ := Gives.lift_bind gives
  replace gives := context_bind gives
  obtain ⟨grown, ⟨_, _, _, ran⟩, gives⟩ := Gives.lift_bind gives
  obtain ⟨_, u, changed, gives⟩ := Gives.bind gives
  obtain ⟨-, rfl⟩ := Gives.pure gives
  rw [Gives.modify changed]
  exact .ofContext (Check.recGroup_functions ran)

theorem addTable (type : TableType Nat) : Steady (addTable type) :=
  updateContext fun _ => rfl

theorem addMemory (type : Limits) : Steady (addMemory type) :=
  updateContext fun _ => rfl

theorem addGlobal (type : GlobalType Nat) : Steady (addGlobal type) :=
  updateContext fun _ => rfl

theorem addTag (offset type : Nat) : Steady (addTag offset type) :=
  context.bind fun _ => (lift _).bind fun _ => updateContext fun _ => rfl

theorem declaredTag (offset : Nat) : Steady (declaredTag offset) :=
  (lift _).bind fun type => (addTag offset type).bind fun _ => pure type

theorem memory (offset : Nat) : Steady (memory offset) :=
  (lift _).bind fun type => (lift _).bind fun _ => (addMemory type).bind fun _ => pure type

theorem global (offset : Nat) : Steady (global offset) :=
  (lift _).bind fun type => (lift _).bind fun code => context.bind fun _ => (lift _).bind fun _ =>
    (constant type.type code).bind fun _ => (addGlobal type).bind fun _ => pure _

theorem tableInitial (offset : Nat) (element : RefType Nat) (code : Option (List Read.Located)) :
    Steady (tableInitial offset element code) := by
  cases code with
  | none => exact (lift _).bind fun _ => pure _
  | some code => exact (lift _).bind fun _ => (constant (.ref element) code).bind fun _ => pure _

theorem table (offset : Nat) : Steady (table offset) :=
  (lift _).bind fun (type, code) => context.bind fun _ => (lift _).bind fun _ =>
    (tableInitial offset type.element code).bind fun _ => (addTable type).bind fun _ => pure _

theorem checkElement (offset : Nat) (items : RawItems) : Steady (checkElement offset items) := by
  cases items with
  | functions items => exact pure _
  | expressions type items => exact context.bind fun _ => lift _

theorem placeElem (offset : Nat) (element : RefType Nat) (mode : RawMode) :
    Steady (placeElem offset element mode) := by
  cases mode with
  | passive => exact pure _
  | declared => exact pure _
  | active table code =>
      refine context.bind fun ctx => ?_
      dsimp only
      split
      · exact lift _
      · exact (lift _).bind fun _ => (constant _ code).bind fun _ => pure _

theorem elemFunction (offset function : Nat) : Steady (elemFunction offset function) :=
  context.bind fun _ => (lift _).bind fun _ => bind (updateContext fun _ => rfl) fun _ => pure _

theorem elemItems (items : RawItems) : Steady (elemItems items) := by
  cases items with
  | functions items =>
      exact (mapM (fun (offset, function) => elemFunction offset function) items).bind
        fun _ => pure _
  | expressions type items => exact (mapM (constant (.ref type)) items).bind fun _ => pure _

theorem addElem (element : RefType Nat) : Steady (addElem element) :=
  updateContext fun _ => rfl

theorem elem (offset : Nat) : Steady (elem offset) :=
  (lift _).bind fun (mode, items) => (checkElement offset items).bind fun _ =>
    (placeElem offset items.element mode).bind fun _ => (lift _).bind fun _ =>
      (elemItems items).bind fun _ => (addElem items.element).bind fun _ => pure _

theorem data (offset : Nat) : Steady (data offset) := by
  refine (lift _).bind fun mode => (lift _).bind fun count => (lift _).bind fun bytes => ?_
  cases mode with
  | active memory code =>
      refine context.bind fun ctx => ?_
      split
      · exact lift _
      · exact (constant _ code).bind fun _ => pure _
  | passive => exact pure _
  | declared => exact pure _

end Steady

/-! Functions, imports and exports -/

theorem adds_of_addFunction {type : Nat} {r : Unit}
    (gives : Gives (addFunction offset type) s r t) : Adds 1 s t := by
  replace gives := context_bind gives
  obtain ⟨_, -, gives⟩ := Gives.lift_bind gives
  rw [eq_of_updateContext gives]
  exact ⟨rfl, Array.size_push _⟩

theorem adds_of_declaredFunction {type : Nat}
    (gives : Gives (declaredFunction offset) s type t) : Adds 1 s t := by
  obtain ⟨type, -, gives⟩ := Gives.lift_bind gives
  obtain ⟨_, u, added, gives⟩ := Gives.bind gives
  obtain ⟨rfl, rfl⟩ := Gives.pure gives
  exact adds_of_addFunction added

theorem adds_of_imported {found : Import} (gives : Gives (imported offset) s found t) :
    Adds (if found.type.kind = .func then 1 else 0) s t := by
  obtain ⟨moduleName, -, gives⟩ := Gives.lift_bind gives
  obtain ⟨name, -, gives⟩ := Gives.lift_bind gives
  obtain ⟨type, -, gives⟩ := Gives.lift_bind gives
  obtain ⟨_, u, added, gives⟩ := Gives.bind gives
  obtain ⟨rfl, rfl⟩ := Gives.pure gives
  cases type with
  | func type => exact adds_of_addFunction added
  | table type =>
      have steady : Steady (addImported offset (.table type)) :=
        .bind .context fun _ => .bind (.lift _) fun _ => .bind (.addTable type) fun _ =>
          .bind .context fun _ => .ite (.lift _) (.pure _)
      exact steady.adds added
  | memory type =>
      have steady : Steady (addImported offset (.memory type)) :=
        .bind (.lift _) fun _ => .bind (.addMemory type) fun _ =>
          .bind .context fun _ => .ite (.lift _) (.pure _)
      exact steady.adds added
  | global type =>
      have steady : Steady (addImported offset (.global type)) :=
        .bind .context fun _ => .bind (.lift _) fun _ => .bind (.addGlobal type) fun _ =>
          .updateContext fun _ => rfl
      exact steady.adds added
  | tag type => exact (Steady.addTag offset type).adds added

/-- An export has a new name, and a function that is exported is known. -/
theorem spec_exported {found : Export} (gives : Gives (exported offset) s found t) :
    Adds 0 s t ∧ t.context.exports = found.name :: s.context.exports ∧
      found.name ∉ s.context.exports ∧
      (found.kind = .func → found.index < s.context.functions.size) := by
  obtain ⟨name, -, gives⟩ := Gives.lift_bind gives
  obtain ⟨kind, -, gives⟩ := Gives.lift_bind gives
  obtain ⟨index, -, gives⟩ := Gives.lift_bind gives
  replace gives := context_bind gives
  obtain ⟨_, ⟨_, _, _, inside⟩, gives⟩ := Gives.lift_bind gives
  obtain ⟨_, ⟨_, _, _, fresh⟩, gives⟩ := Gives.lift_bind gives
  obtain ⟨_, u, changed, gives⟩ := Gives.bind gives
  obtain ⟨rfl, rfl⟩ := Gives.pure gives
  rw [Gives.modify changed]
  have inside := Read.holds_of_require inside
  have fresh := Read.holds_of_require fresh
  refine ⟨.ofContext ?_, ?_, ?_, ?_⟩
  · dsimp only
    split <;> simp
  · dsimp only
    split <;> rfl
  · simpa using fresh
  · rintro rfl
    exact of_decide_eq_true inside

/-- What holds of no item and is kept by one more in front holds of all that are read. -/
theorem itemsFrom_induction {item : Nat → CheckModule α}
    {motive : Progress → List α → Progress → Prop} (nil : ∀ s, motive s [] s)
    (cons : ∀ {offset s a u rest t}, Gives (item offset) s a u → motive u rest t →
      motive s (a :: rest) t)
    {n : Nat} {found : List α} (gives : Gives (itemsFrom item n) s found t) :
    found.length = n ∧ motive s found t := by
  induction n generalizing s found with
  | zero =>
      obtain ⟨rfl, rfl⟩ := Gives.pure gives
      exact ⟨rfl, nil s⟩
  | succ n ih =>
      obtain ⟨offset, -, gives⟩ := Gives.lift_bind gives
      obtain ⟨a, u, first, gives⟩ := Gives.bind gives
      obtain ⟨rest, u, more, gives⟩ := Gives.bind gives
      obtain ⟨rfl, rfl⟩ := Gives.pure gives
      obtain ⟨length, others⟩ := ih more
      exact ⟨congrArg (· + 1) length, cons first others⟩

section ItemsFrom

variable {item : Nat → CheckModule α} {n : Nat} {found : List α}

/-- Items add what each of them adds. -/
theorem adds_of_itemsFrom (weight : α → Nat)
    (each : ∀ {offset s a t}, Gives (item offset) s a t → Adds (weight a) s t)
    (gives : Gives (itemsFrom item n) s found t) :
    found.length = n ∧ Adds (found.map weight).sum s t := by
  apply itemsFrom_induction (motive := fun s found t => Adds (found.map weight).sum s t) ?_ ?_ gives
  · exact .refl
  · intro offset s a u rest t first more
    rw [List.map_cons, List.sum_cons]
    exact (each first).trans more

theorem adds_of_steady (steady : ∀ offset, Steady (item offset))
    (gives : Gives (itemsFrom item n) s found t) : Adds 0 s t := by
  have added := (adds_of_itemsFrom (fun _ => 0) (steady _).adds gives).2
  simpa using added

theorem spec_exports {found : List Export} (gives : Gives (itemsFrom exported n) s found t) :
    Adds 0 s t ∧ (found.map (·.name)).Nodup ∧
      ∀ e ∈ found, e.kind = .func → e.index < s.context.functions.size := by
  have kept := itemsFrom_induction
    (motive := fun s found t => Adds 0 s t ∧ (found.map (·.name)).Nodup ∧
      (∀ e ∈ found, e.name ∉ s.context.exports) ∧
      ∀ e ∈ found, e.kind = .func → e.index < s.context.functions.size) ?_ ?_ gives
  · obtain ⟨-, added, distinct, -, known⟩ := kept
    exact ⟨added, distinct, known⟩
  · intro s
    exact ⟨.refl s, .nil, nofun, nofun⟩
  · rintro offset s e u rest t first ⟨added, distinct, fresh, known⟩
    obtain ⟨grown, names, new, inside⟩ := spec_exported first
    rw [names] at fresh
    rw [grown.functions, Nat.add_zero] at known
    refine ⟨grown.trans added, ?_, ?_, ?_⟩
    · rw [List.map_cons, List.nodup_cons]
      refine ⟨?_, distinct⟩
      intro member
      obtain ⟨other, isRest, same⟩ := List.mem_map.mp member
      exact fresh other isRest (by simp [same])
    · intro other member
      obtain rfl | member := List.mem_cons.mp member
      · exact new
      · exact fun present => fresh other member (List.mem_cons_of_mem _ present)
    · intro other member
      obtain rfl | member := List.mem_cons.mp member
      · exact inside
      · exact known other member

end ItemsFrom

/-! Sections -/

theorem spec_inOrder {kind : SectionKind} {r : Unit} (gives : Gives (inOrder kind offset) s r t) :
    s.rank < kind.rank ∧ t = { s with rank := kind.rank } := by
  replace gives := Gives.get_bind gives
  obtain ⟨u, early, gives⟩ := Gives.guarded gives
  split at early
  next => exact (Gives.failAt early).elim
  next later =>
    subst early
    exact ⟨Nat.lt_of_not_le later, Gives.set gives⟩

/-- A section is in order, and its items are read after it is noted; where it declares the
functions, as many bodies are expected. -/
theorem spec_items {kind : SectionKind} {what : String} {limit : Nat} {present : Context → Nat}
    {item : Nat → CheckModule α} {found : List α}
    (gives : Gives (items kind what limit present item) s found t) :
    s.rank < kind.rank ∧ ∃ count, Gives (itemsFrom item count)
      { s with
        rank := kind.rank
        expectedBodies := if kind = .function then some count else s.expectedBodies }
      found t := by
  obtain ⟨start, -, gives⟩ := Gives.lift_bind gives
  obtain ⟨count, -, gives⟩ := Gives.lift_bind gives
  replace gives := Gives.guarded_lift gives
  obtain ⟨_, u, ordered, gives⟩ := Gives.bind gives
  obtain ⟨later, rfl⟩ := spec_inOrder ordered
  replace gives := context_bind gives
  obtain ⟨_, u, limited, gives⟩ := Gives.bind gives
  have same : { s with rank := kind.rank } = u := by
    rw [atMost] at limited
    split at limited
    · exact (Gives.lift limited).1
    · exact (Gives.pure limited).2
  subst same
  obtain ⟨u, expected, gives⟩ := Gives.guarded gives
  obtain ⟨list, v, read, gives⟩ := Gives.bind gives
  obtain ⟨done, -, gives⟩ := Gives.lift_bind gives
  replace gives := Gives.guarded_lift gives
  obtain ⟨rfl, rfl⟩ := Gives.pure gives
  refine ⟨later, count, ?_⟩
  by_cases isFunction : kind = .function
  · rw [if_pos isFunction] at expected ⊢
    rwa [Gives.modify expected] at read
  · rw [if_neg isFunction] at expected ⊢
    subst expected
    exact read

end CheckModule

end Rerun.Wasm
