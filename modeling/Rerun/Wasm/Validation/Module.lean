import Rerun.Wasm.Validation.Section

/-! Validation of a whole binary. -/

namespace Rerun.Wasm

/-- What the header of a binary announces. -/
inductive Encoding
  | module | component
deriving DecidableEq, Repr

namespace Check

open Read

def magic : List UInt8 := [0x00, 0x61, 0x73, 0x6d]

/-- Bytes one to a line. -/
def listed (bytes : List UInt8) : String :=
  "[\n" ++ String.join (bytes.map fun b => s!"    0x{Digits.hex b.toNat},\n") ++ "]"

/-- The first eight bytes. -/
def header : Read Encoding := do
  let start ← position
  let found := (← bytes 4).toList
  if found != magic then
    failAt start
      s!"magic header not detected: bad magic number - expected={listed magic} actual={listed found}"
  let version ← fixed 2
  let kind ← fixed 2
  let shown := Digits.hex version
  match kind with
  | 0 =>
      if version != 1 then failAt start s!"unknown binary version: 0x{shown}"
      return .module
  | 1 =>
      if version < 13 then failAt start s!"unsupported component version: 0x{shown}"
      if 13 < version then failAt start s!"unknown component version: 0x{shown}"
      return .component
  | kind =>
      let word := version + kind * Nat.pow 2 16
      let digits := Digits.hex word
      failAt (start + 4)
        ("unknown binary version: 0x" ++ "".pushn '0' (8 - digits.length) ++ digits)

/-- The number and the size of a section. -/
def sectionHead : Read (UInt8 × Nat) := do
  let start ← position
  let id ← u8
  if 128 ≤ id then failAt start "malformed section id"
  return (id, ← u32)

/-- A section that nobody knows. -/
def unknownSection {α : Type} (id : UInt8) (size : Nat) : Read α := do
  let start ← position
  let _ ← bytes size
  failAt start s!"malformed section id: {id}"

/-- Of a custom section only its name is looked at. -/
def customSection (size : Nat) : Read Unit :=
  within size do
    let _ ← string
    return ()

end Check

namespace CheckModule

open Read

/-- A section that may stand once, all of it. -/
def contents (kind : SectionKind) : CheckModule Unit := do
  match kind with
  | .type =>
      let types ← items kind "types" maxItems (fun _ => 0) recGroup
      updateModule fun m => { m with types }
  | .imported =>
      let imports ← items kind "imports" maxItems (fun _ => 0) imported
      updateModule fun m => { m with imports }
  | .function =>
      let functions ← items kind "functions" maxItems (·.functions.size) declaredFunction
      updateModule fun m => { m with functions }
  | .table =>
      let tables ← items kind "tables" maxStores (·.tables.size) table
      updateModule fun m => { m with tables }
  | .memory =>
      let memories ← items kind "memories" maxStores (·.memories.size) memory
      updateModule fun m => { m with memories }
  | .tag =>
      let tags ← items kind "tags" maxItems (·.tags.size) declaredTag
      updateModule fun m => { m with tags }
  | .global =>
      let globals ← items kind "globals" maxItems (·.globals.size) global
      updateModule fun m => { m with globals }
  | .exported =>
      let exports ← items kind "exports" maxItems (·.exports.length) exported
      updateModule fun m => { m with exports }
  | .start => start
  | .elem =>
      let elems ← items kind "element segments" maxSegments (·.elems.size) elem
      updateModule fun m => { m with elems }
  | .dataCount => dataCount
  | .code => return ()
  | .data =>
      let datas ← items kind "data segments" maxSegments (fun _ => 0) data
      updateModule fun m => { m with datas }

/-- A section by its number. -/
def numbered (id : UInt8) (size : Nat) : CheckModule Unit := do
  if id = 0 then Check.customSection size
  else
    match SectionKind.ofId? id with
    | some .code => code size
    | some kind =>
        let p ← get
        let ((), p) ← within size ((contents kind).run p)
        set p
    | none => Check.unknownSection id size

def sections : Nat → CheckModule Unit
  | 0 => return ()
  | fuel + 1 => do
      if ← atEnd then return ()
      let (id, size) ← Check.sectionHead
      numbered id size
      sections fuel

def atFinish : CheckModule Unit := do
  let stop ← position
  let p ← get
  require (p.context.dataCount.all (· == p.module.datas.length)) stop
    "data count and data section have inconsistent lengths"
  require (p.expectedBodies.all (· == 0)) stop
    "function and code section have inconsistent lengths"

/-- All of a module but the bodies of its functions. -/
def outline : Read Progress := do
  let ((), p) ← (do sections ((← remaining) + 1); atFinish : CheckModule Unit).run {}
  return p

end CheckModule

namespace Check

open Read

def bodies (p : Progress) : Read Module := do
  return { p.module with bodies := ← p.ranges.mapM (body p.context) }

/-- The header of what stands within a component. -/
def innerHeader (expected : Encoding) (word : String) : Read Unit := do
  let start ← position
  require ((← header) == expected) start s!"expected a version header for a {word}"

/-- The sections of a component that hold instances, aliases, types, canonical functions,
imports and exports. -/
def isInterface (id : UInt8) : Bool := id == 2 || id == 3 || 5 ≤ id && id ≤ 11

/-- The core modules in a component and in the components within it, each without its bodies.
The sections of its interface are passed over unread, whatever stands in them, so that here
components are refused for their core modules, their headers and the frames of their sections
only. -/
def componentModules : Nat → Read (List Progress)
  | 0 => return []
  | fuel + 1 => do
      if ← atEnd then return []
      let (id, size) ← sectionHead
      let found ←
        if id = 0 then do
          customSection size
          pure []
        else if id = 1 then
          within size do
            innerHeader .module "module"
            return [← CheckModule.outline]
        else if id = 4 then
          within size do
            innerHeader .component "component"
            componentModules fuel
        else if isInterface id then do
          let _ ← bytes size
          pure []
        else unknownSection id size
      return found ++ (← componentModules fuel)

/-- A whole binary; a component gives its modules. -/
def binary : Read (Encoding × List Module) := do
  let encoding ← header
  let outlines ← match encoding with
    | .module => do pure [← CheckModule.outline]
    | .component => do componentModules ((← remaining) + 1)
  return (encoding, ← outlines.mapM bodies)

end Check

/-- What may be said of a binary: the faults it has for those who lack a feature, in
the order in which they are met, and what it is for those who know them all. -/
structure Verdict where
  demands : List Demand
  result : Except Fault (Encoding × List Module)

namespace Verdict

def ofBinary (bytes : ByteArray) : Verdict :=
  let (result, cursor) := (Check.binary.run bytes).run.run { position := 0, stop := bytes.size }
  ⟨cursor.demands.reverse, result⟩

/-- The first fault for a party that has these features. -/
def judge (v : Verdict) (has : Feature → Bool) : Except Fault (Encoding × List Module) :=
  match v.demands.find? fun d => !has d.feature with
  | some d => .error d.fault
  | none => v.result

end Verdict

end Rerun.Wasm
