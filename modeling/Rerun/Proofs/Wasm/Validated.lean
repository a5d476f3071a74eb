import Rerun.Proofs.Wasm.Section
import Rerun.Wasm.Engine

/-! What a module that was validated can be relied on for: each of its functions has a body,
and each function it exports is there. -/

namespace Rerun.Wasm

namespace CheckModule

variable {α : Type} {s t u : Progress}

/-- What tells which functions a module has and shows. -/
def faces (m : Module) : List Import × List Nat × List Export :=
  (m.imports, m.functions, m.exports)

/-- What is known of the functions of a module, however far it has been read.  Sections stand in
order and at most once, so that what a later one brings is not there yet. -/
structure Sound (p : Progress) : Prop where
  noImports : p.rank < SectionKind.imported.rank → p.module.imports = []
  noFunctions : p.rank < SectionKind.function.rank → p.module.functions = []
  noRanges : p.rank < SectionKind.code.rank → p.ranges = []
  known : p.context.functions.size =
    (p.module.imported .func).length + p.module.functions.length
  distinct : (p.module.exports.map (·.name)).Nodup
  exported : ∀ e ∈ p.module.exports, e.kind = .func → e.index < p.context.functions.size
  bodies : match p.expectedBodies with
    | some n => n = p.module.functions.length ∧ p.ranges = []
    | none => p.ranges.length = p.module.functions.length

/-- Further on in the module, with the same functions. -/
structure Beside (s t : Progress) : Prop where
  functions : t.context.functions.size = s.context.functions.size
  module : faces t.module = faces s.module
  rank : s.rank ≤ t.rank
  expectedBodies : t.expectedBodies = s.expectedBodies
  ranges : t.ranges = s.ranges

namespace Beside

theorem trans (first : Beside s t) (rest : Beside t u) : Beside s u where
  functions := rest.functions.trans first.functions
  module := rest.module.trans first.module
  rank := Nat.le_trans first.rank rest.rank
  expectedBodies := rest.expectedBodies.trans first.expectedBodies
  ranges := rest.ranges.trans first.ranges

theorem of_adds (adds : Adds 0 s t) : Beside s t := by
  have functions := adds.functions
  rw [adds.same] at functions ⊢
  exact ⟨functions, rfl, Nat.le_refl _, rfl, rfl⟩

theorem of_rank {rank : Nat} (later : s.rank ≤ rank) : Beside s { s with rank } :=
  ⟨rfl, rfl, later, rfl, rfl⟩

theorem of_updateModule {f : Module → Module} {r : Unit} (gives : Gives (updateModule f) s r t)
    (same : ∀ m, faces (f m) = faces m) : Beside s t := by
  rw [Gives.modify gives]
  exact ⟨rfl, same s.module, Nat.le_refl _, rfl, rfl⟩

/-- A section whose items bring no functions, and are kept where no functions are. -/
theorem of_section {kind : SectionKind} {what : String} {limit : Nat} {present : Context → Nat}
    {item : Nat → CheckModule α} {f : List α → Module → Module} {r : Unit}
    (gives : Gives (do
      let found ← items kind what limit present item
      updateModule (f found)) s r t)
    (steady : ∀ offset, Steady (item offset)) (same : ∀ found m, faces (f found m) = faces m)
    (other : kind ≠ .function) : Beside s t := by
  obtain ⟨found, u, read, gives⟩ := Gives.bind gives
  obtain ⟨later, count, read⟩ := spec_items read
  rw [if_neg other] at read
  exact (of_rank (Nat.le_of_lt later)).trans
    ((of_adds (adds_of_steady steady read)).trans (of_updateModule gives (same found)))

theorem of_single {kind : SectionKind} {what : String} {n : Nat}
    (gives : Gives (single kind what) s n t) : Beside s t := by
  obtain ⟨_, -, gives⟩ := Gives.lift_bind gives
  obtain ⟨_, -, gives⟩ := Gives.lift_bind gives
  obtain ⟨_, -, gives⟩ := Gives.lift_bind gives
  replace gives := Gives.guarded_lift gives
  obtain ⟨_, u, ordered, gives⟩ := Gives.bind gives
  obtain ⟨later, rfl⟩ := spec_inOrder ordered
  obtain ⟨rfl, rfl⟩ := Gives.pure gives
  exact of_rank (Nat.le_of_lt later)

theorem of_start {r : Unit} (gives : Gives start s r t) : Beside s t := by
  obtain ⟨_, -, gives⟩ := Gives.lift_bind gives
  obtain ⟨function, u, read, gives⟩ := Gives.bind gives
  replace gives := context_bind gives
  obtain ⟨_, -, gives⟩ := Gives.lift_bind gives
  obtain ⟨_, -, gives⟩ := Gives.lift_bind gives
  exact (of_single read).trans (of_updateModule gives fun _ => rfl)

theorem of_dataCount {r : Unit} (gives : Gives dataCount s r t) : Beside s t := by
  obtain ⟨_, -, gives⟩ := Gives.lift_bind gives
  obtain ⟨count, u, read, gives⟩ := Gives.bind gives
  obtain ⟨_, -, gives⟩ := Gives.lift_bind gives
  refine (of_single read).trans (of_adds ?_)
  rw [eq_of_updateContext gives]
  exact .ofContext rfl

end Beside

theorem length_imported (imports : List Import) (m : Module) :
    ({ m with imports }.imported .func).length =
      (imports.map fun i => if i.type.kind = .func then 1 else 0).sum := by
  induction imports with
  | nil => rfl
  | cons first rest ih =>
      simp only [Module.imported, List.map_cons, List.filter_cons, List.sum_cons] at ih ⊢
      rw [← ih]
      by_cases isFunction : first.type.kind = .func
      · simp [isFunction, Nat.add_comm]
      · simp [isFunction]

/-- There is a body for each type. -/
theorem length_bodyRanges {stop : Nat} {types : List Nat} {found : List BodyRange}
    {source : ByteArray} {c e : Cursor}
    (ran : (bodyRanges stop types).result source c = (.ok found, e)) :
    found.length = types.length := by
  induction types generalizing found c with
  | nil =>
      cases ran
      rfl
  | cons type rest ih =>
      obtain ⟨offset, d, -, ran⟩ := Read.exists_of_bind ran
      obtain ⟨size, d, -, ran⟩ := Read.exists_of_bind ran
      obtain ⟨start, d, -, ran⟩ := Read.exists_of_bind ran
      obtain ⟨_, d, -, ran⟩ := Read.exists_of_bind ran
      obtain ⟨d, ran⟩ := Read.exists_of_guarded ran
      obtain ⟨others, d, more, ran⟩ := Read.exists_of_bind ran
      cases ran
      exact congrArg (· + 1) (ih more)

namespace Sound

theorem initial : Sound {} where
  noImports _ := rfl
  noFunctions _ := rfl
  noRanges _ := rfl
  known := rfl
  distinct := .nil
  exported := nofun
  bodies := rfl

theorem of_beside (sound : Sound s) (beside : Beside s t) : Sound t := by
  obtain ⟨imports, functions, exports⟩ : t.module.imports = s.module.imports ∧
      t.module.functions = s.module.functions ∧ t.module.exports = s.module.exports := by
    simpa [faces] using beside.module
  have imported : t.module.imported .func = s.module.imported .func := by
    rw [Module.imported, Module.imported, imports]
  constructor
  · rw [imports]
    exact fun early => sound.noImports (Nat.lt_of_le_of_lt beside.rank early)
  · rw [functions]
    exact fun early => sound.noFunctions (Nat.lt_of_le_of_lt beside.rank early)
  · rw [beside.ranges]
    exact fun early => sound.noRanges (Nat.lt_of_le_of_lt beside.rank early)
  · rw [beside.functions, imported, functions]
    exact sound.known
  · rw [exports]
    exact sound.distinct
  · rw [exports, beside.functions]
    exact sound.exported
  · rw [beside.expectedBodies, beside.ranges, functions]
    exact sound.bodies

/-! What a section that brings or shows functions makes of the state -/

theorem withImports (sound : Sound s) (later : s.rank < SectionKind.imported.rank)
    {imports : List Import} {ctx : Context}
    (functions : ctx.functions.size = s.context.functions.size +
      (imports.map fun i => if i.type.kind = .func then 1 else 0).sum) :
    Sound
      { s with
        rank := SectionKind.imported.rank
        context := ctx
        module := { s.module with imports } } where
  noImports early := absurd early (Nat.lt_irrefl _)
  noFunctions early := sound.noFunctions (Nat.lt_trans later early)
  noRanges early := sound.noRanges (Nat.lt_trans later early)
  known := by
    have known := sound.known
    simp only [Module.imported, sound.noImports later] at known
    rw [length_imported, functions, known]
    simp [Nat.add_comm]
  distinct := sound.distinct
  exported e member isFunction := by
    have inside := sound.exported e member isFunction
    dsimp only
    omega
  bodies := sound.bodies

theorem withFunctions (sound : Sound s) (later : s.rank < SectionKind.function.rank)
    {functions : List Nat} {ctx : Context}
    (known : ctx.functions.size = s.context.functions.size + functions.length) :
    Sound
      { s with
        rank := SectionKind.function.rank
        expectedBodies := some functions.length
        context := ctx
        module := { s.module with functions } } where
  noImports early := sound.noImports (Nat.lt_trans later early)
  noFunctions early := absurd early (Nat.lt_irrefl _)
  noRanges early := sound.noRanges (Nat.lt_trans later early)
  known := by
    have before := sound.known
    rw [sound.noFunctions later, List.length_nil, Nat.add_zero] at before
    rw [known, before]
    rfl
  distinct := sound.distinct
  exported e member isFunction := by
    have inside := sound.exported e member isFunction
    dsimp only
    omega
  bodies := ⟨rfl, sound.noRanges (Nat.lt_trans later (by decide))⟩

theorem withExports (sound : Sound s) (later : s.rank < SectionKind.exported.rank)
    {exports : List Export} {ctx : Context}
    (functions : ctx.functions.size = s.context.functions.size)
    (distinct : (exports.map (·.name)).Nodup)
    (exported : ∀ e ∈ exports, e.kind = .func → e.index < s.context.functions.size) :
    Sound
      { s with
        rank := SectionKind.exported.rank
        context := ctx
        module := { s.module with exports } } where
  noImports early := sound.noImports (Nat.lt_trans later early)
  noFunctions early := sound.noFunctions (Nat.lt_trans later early)
  noRanges early := sound.noRanges (Nat.lt_trans later early)
  known := functions.trans sound.known
  distinct := distinct
  exported := functions ▸ exported
  bodies := sound.bodies

theorem withRanges (sound : Sound s) (later : s.rank < SectionKind.code.rank)
    {ranges : List BodyRange} (length : ranges.length = s.module.functions.length) :
    Sound { s with rank := SectionKind.code.rank, ranges, expectedBodies := none } where
  noImports early := sound.noImports (Nat.lt_trans later early)
  noFunctions early := sound.noFunctions (Nat.lt_trans later early)
  noRanges early := absurd early (Nat.lt_irrefl _)
  known := sound.known
  distinct := sound.distinct
  exported := sound.exported
  bodies := length

/-! Each section keeps the state sound -/

theorem of_imported {r : Unit} (sound : Sound s) (gives : Gives (contents .imported) s r t) :
    Sound t := by
  obtain ⟨imports, u, read, gives⟩ := Gives.bind gives
  obtain ⟨later, count, read⟩ := spec_items read
  obtain ⟨-, added⟩ := adds_of_itemsFrom _ adds_of_imported read
  rw [Gives.modify gives, added.same]
  exact sound.withImports later added.functions

theorem of_function {r : Unit} (sound : Sound s) (gives : Gives (contents .function) s r t) :
    Sound t := by
  obtain ⟨types, u, read, gives⟩ := Gives.bind gives
  obtain ⟨later, count, read⟩ := spec_items read
  obtain ⟨rfl, added⟩ := adds_of_itemsFrom (fun _ => 1) adds_of_declaredFunction read
  have functions := added.functions
  simp only [List.map_const', List.sum_replicate, smul_eq_mul, Nat.mul_one] at functions
  rw [Gives.modify gives, added.same]
  exact sound.withFunctions later functions

theorem of_exported {r : Unit} (sound : Sound s) (gives : Gives (contents .exported) s r t) :
    Sound t := by
  obtain ⟨exports, u, read, gives⟩ := Gives.bind gives
  obtain ⟨later, count, read⟩ := spec_items read
  obtain ⟨added, distinct, exported⟩ := spec_exports read
  rw [Gives.modify gives, added.same]
  exact sound.withExports later added.functions distinct exported

theorem of_code {size : Nat} {r : Unit} (sound : Sound s) (gives : Gives (code size) s r t) :
    Sound t := by
  obtain ⟨start, -, gives⟩ := Gives.lift_bind gives
  obtain ⟨count, -, gives⟩ := Gives.lift_bind gives
  obtain ⟨place, -, gives⟩ := Gives.lift_bind gives
  replace gives := Gives.guarded_lift gives
  obtain ⟨_, u, ordered, gives⟩ := Gives.bind gives
  obtain ⟨later, rfl⟩ := spec_inOrder ordered
  replace gives := Gives.get_bind gives
  obtain ⟨_, -, gives⟩ := Gives.lift_bind gives
  obtain ⟨ranges, ⟨_, _, _, ran⟩, gives⟩ := Gives.lift_bind gives
  obtain ⟨place, -, gives⟩ := Gives.lift_bind gives
  replace gives := Gives.guarded_lift gives
  rw [Gives.modify gives]
  exact sound.withRanges later (length_bodyRanges ran)

theorem of_contents {kind : SectionKind} {r : Unit} (sound : Sound s)
    (gives : Gives (contents kind) s r t) : Sound t := by
  cases kind with
  | type => exact sound.of_beside (.of_section gives .recGroup (fun _ _ => rfl) nofun)
  | imported => exact sound.of_imported gives
  | function => exact sound.of_function gives
  | table => exact sound.of_beside (.of_section gives .table (fun _ _ => rfl) nofun)
  | memory => exact sound.of_beside (.of_section gives .memory (fun _ _ => rfl) nofun)
  | tag => exact sound.of_beside (.of_section gives .declaredTag (fun _ _ => rfl) nofun)
  | global => exact sound.of_beside (.of_section gives .global (fun _ _ => rfl) nofun)
  | exported => exact sound.of_exported gives
  | start => exact sound.of_beside (.of_start gives)
  | elem => exact sound.of_beside (.of_section gives .elem (fun _ _ => rfl) nofun)
  | dataCount => exact sound.of_beside (.of_dataCount gives)
  | code =>
      obtain ⟨-, rfl⟩ := Gives.pure gives
      exact sound
  | data => exact sound.of_beside (.of_section gives .data (fun _ _ => rfl) nofun)

theorem of_numbered {id : UInt8} {size : Nat} {r : Unit} (sound : Sound s)
    (gives : Gives (numbered id size) s r t) : Sound t := by
  rw [numbered] at gives
  split at gives
  · obtain ⟨rfl, -⟩ := Gives.lift gives
    exact sound
  · split at gives
    · exact sound.of_code gives
    · replace gives := Gives.get_bind gives
      obtain ⟨⟨_, q⟩, ⟨_, _, _, ran⟩, gives⟩ := Gives.lift_bind gives
      obtain ⟨d, f, inner⟩ := Read.within_ran ran
      rw [Gives.set gives]
      exact sound.of_contents ⟨_, d, f, inner⟩
    · exact (Gives.unknownSection gives).elim

theorem of_sections {fuel : Nat} {r : Unit} (sound : Sound s)
    (gives : Gives (sections fuel) s r t) : Sound t := by
  induction fuel generalizing s with
  | zero =>
      obtain ⟨-, rfl⟩ := Gives.pure gives
      exact sound
  | succ fuel ih =>
      obtain ⟨done, -, gives⟩ := Gives.lift_bind gives
      split at gives
      · obtain ⟨-, rfl⟩ := Gives.pure gives
        exact sound
      · obtain ⟨⟨id, size⟩, -, gives⟩ := Gives.lift_bind gives
        obtain ⟨_, u, first, gives⟩ := Gives.bind gives
        exact ih (sound.of_numbered first) gives

end Sound

/-- At the end every function has found its body. -/
theorem spec_outline {p : Progress} {source : ByteArray} {c e : Cursor}
    (ran : outline.result source c = (.ok p, e)) :
    Sound p ∧ p.ranges.length = p.module.functions.length := by
  obtain ⟨⟨_, q⟩, d, read, ran⟩ := Read.exists_of_bind ran
  cases ran
  have gives : Gives _ ({} : Progress) _ _ := ⟨source, c, _, read⟩
  obtain ⟨left, -, gives⟩ := Gives.lift_bind gives
  obtain ⟨_, u, read, gives⟩ := Gives.bind gives
  have sound := Sound.initial.of_sections read
  obtain ⟨stop, -, gives⟩ := Gives.lift_bind gives
  replace gives := Gives.get_bind gives
  obtain ⟨_, -, gives⟩ := Gives.lift_bind gives
  obtain ⟨rfl, _, _, _, complete⟩ := Gives.lift gives
  have complete := Read.holds_of_require complete
  refine ⟨sound, ?_⟩
  have bodies := sound.bodies
  cases expected : u.expectedBodies with
  | none => simpa [expected] using bodies
  | some n =>
      simp only [expected, Option.all_some, beq_iff_eq] at complete bodies
      rw [← bodies.1, bodies.2, complete]
      rfl

end CheckModule

/-- Each function of the module has a body, no two exports have one name, and each function
that is exported is imported or defined. -/
structure Module.Complete (m : Module) : Prop where
  bodies : m.bodies.length = m.functions.length
  distinct : (m.exports.map (·.name)).Nodup
  exported : ∀ e ∈ m.exports, e.kind = .func →
    e.index < (m.imported .func).length + m.functions.length

theorem Check.complete_of_bodies {p : Progress} {m : Module} {source : ByteArray} {c e : Cursor}
    (sound : CheckModule.Sound p) (ranges : p.ranges.length = p.module.functions.length)
    (ran : (bodies p).result source c = (.ok m, e)) : m.Complete := by
  obtain ⟨found, d, read, ran⟩ := Read.exists_of_bind ran
  cases ran
  refine ⟨?_, sound.distinct, ?_⟩
  · exact (Read.mapM_ran read).length_eq.symm.trans ranges
  · intro e member isFunction
    have inside := sound.exported e member isFunction
    rw [sound.known] at inside
    exact inside

theorem Check.complete_of_binary {binary : ByteArray} {encoding : Encoding}
    {found : List Module} {c e : Cursor}
    (ran : Check.binary.result binary c = (.ok (encoding, found), e)) :
    (Check.header.result binary c).1 = .ok encoding ∧
      (encoding = .module → ∀ m ∈ found, m.Complete) := by
  unfold Check.binary at ran
  obtain ⟨announced, d, headed, ran⟩ := Read.exists_of_bind ran
  rw [headed]
  cases announced with
  | module =>
      obtain ⟨p, d, outlined, ran⟩ := Read.exists_of_bind ran
      obtain ⟨outlines, d, listed, ran⟩ := Read.exists_of_bind ran
      obtain ⟨modules, _, read, ran⟩ := Read.exists_of_bind ran
      cases ran
      cases listed
      refine ⟨rfl, fun _ => ?_⟩
      obtain ⟨sound, ranges⟩ := CheckModule.spec_outline outlined
      obtain _ | ⟨⟨_, _, last⟩, ⟨⟩⟩ := Read.mapM_ran read
      simpa using complete_of_bodies sound ranges last
  | component =>
      obtain ⟨left, d, -, ran⟩ := Read.exists_of_bind ran
      obtain ⟨outlines, d, -, ran⟩ := Read.exists_of_bind ran
      obtain ⟨modules, _, -, ran⟩ := Read.exists_of_bind ran
      cases ran
      exact ⟨rfl, nofun⟩

/-- A binary that is loaded is no component, so that the module is the one that was read. -/
theorem complete_of_loadBinary {binary : ByteArray} {m : Module}
    (loaded : loadBinary binary = .ok m) : m.Complete := by
  rw [loadBinary] at loaded
  split at loaded
  next => cases loaded
  next single =>
    split at loaded
    next => cases loaded
    next encoding first rest accepted =>
      cases loaded
      obtain ⟨e, ran⟩ := Verdict.exists_ran_of_judge accepted
      obtain ⟨headed, complete⟩ := Check.complete_of_binary ran
      cases encoding with
      | module => exact complete rfl m List.mem_cons_self
      | component =>
          refine absurd ?_ single
          rw [Read.result] at headed
          rw [isComponent, headed]
    next => cases loaded

/-- Whatever is loaded is complete: a text is assembled first, and its binary is validated. -/
theorem complete_of_load {bytes : ByteArray} {m : Module} (loaded : load bytes = .ok m) :
    m.Complete := by
  rw [load, Loader.load] at loaded
  cases meant : engine.binaryOf bytes with
  | error e =>
      rw [meant] at loaded
      cases loaded
  | ok binary =>
      rw [meant] at loaded
      exact complete_of_loadBinary loaded

end Rerun.Wasm
