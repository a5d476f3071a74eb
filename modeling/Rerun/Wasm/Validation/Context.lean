import Rerun.Wasm.Binary.Decode

/-! What is known of a module when a part of it is validated, and when one type is
as good as another. -/

namespace Rerun.Wasm

structure Context where
  types : Array (SubType Nat) := #[]
  /-- For each type the first one that is the same. -/
  canonical : Array Nat := #[]
  /-- Groups of types in a form that two equal groups share, with their first index. -/
  groups : List (List (SubType Nat) × Nat) := []
  /-- By the index of their type, the imported ones first. -/
  functions : Array Nat := #[]
  tables : Array (TableType Nat) := #[]
  memories : Array Limits := #[]
  globals : Array (GlobalType Nat) := #[]
  tags : Array Nat := #[]
  importedGlobals : Nat := 0
  elems : Array (RefType Nat) := #[]
  dataCount : Option Nat := none
  /-- Functions that are referred to outside of bodies. -/
  declared : List Nat := []
  exports : List String := []

namespace Context

def canonicalOf (ctx : Context) (index : Nat) : Nat := (ctx.canonical[index]?).getD index

/-- A reference as groups are compared by: one inside the group by its distance from
the start, which is odd, one outside by its canonical index, which is even. -/
def relative (ctx : Context) (start index : Nat) : Nat :=
  if start ≤ index then 2 * (index - start) + 1 else 2 * ctx.canonicalOf index

def shared (ctx : Context) (start : Nat) (t : SubType Nat) : SubType Nat :=
  Id.run (t.mapM (m := Id) (ctx.relative start))

/-- Adds a group of types. -/
def addGroup (ctx : Context) (types : List (SubType Nat)) : Context :=
  let start := ctx.types.size
  let form := types.map (ctx.shared start)
  let (first, groups) :=
    match ctx.groups.lookup form with
    | some first => (first, ctx.groups)
    | none => (start, (form, start) :: ctx.groups)
  { ctx with
    types := ctx.types ++ types.toArray
    canonical := ctx.canonical ++ ((List.range types.length).map (first + ·)).toArray
    groups }

def composite? (ctx : Context) (index : Nat) : Option (CompositeType Nat) :=
  (ctx.types[index]?).map (·.composite)

def funcType? (ctx : Context) (index : Nat) : Option (FuncType Nat) :=
  match ctx.composite? index with
  | some (.func type) => some type
  | _ => none

/-- The type of a function. -/
def signature? (ctx : Context) (function : Nat) : Option (FuncType Nat) :=
  (ctx.functions[function]?).bind ctx.funcType?

def heapOf (ctx : Context) (index : Nat) : AbstractHeap :=
  match ctx.composite? index with
  | some (.struct _) => .struct
  | some (.array _) => .array
  | _ => .func

/-- Whether a type is another or refines it in so many steps. -/
def refines (ctx : Context) : Nat → Nat → Nat → Bool
  | 0, i, j => ctx.canonicalOf i == ctx.canonicalOf j
  | fuel + 1, i, j =>
      ctx.canonicalOf i == ctx.canonicalOf j ||
        match (ctx.types[i]?).bind (·.parent) with
        | some parent => refines ctx fuel parent j
        | none => false

/-- No chain of refinements is longer. -/
def maxDepth : Nat := 63

def heapWithin (ctx : Context) (a b : HeapType Nat) : Bool :=
  match a, b with
  | .abstract a, .abstract b => a.within b
  | .concrete i, .abstract b => (ctx.heapOf i).within b
  | .abstract a, .concrete i => a == (ctx.heapOf i).bottom
  | .concrete i, .concrete j => ctx.refines maxDepth i j

def refWithin (ctx : Context) (a b : RefType Nat) : Bool :=
  (b.nullable || !a.nullable) && ctx.heapWithin a.heap b.heap

/-- Whether a value of type `a` may stand where one of type `b` is expected. -/
def within (ctx : Context) (a b : ValType Nat) : Bool :=
  match a, b with
  | .ref a, .ref b => ctx.refWithin a b
  | a, b => a == b

def allWithin (ctx : Context) (as bs : List (ValType Nat)) : Bool :=
  as.length == bs.length && (as.zip bs).all fun (a, b) => ctx.within a b

def storageWithin (ctx : Context) (a b : StorageType Nat) : Bool :=
  match a, b with
  | .val a, .val b => ctx.within a b
  | a, b => a == b

def fieldWithin (ctx : Context) (a b : FieldType Nat) : Bool :=
  a.isMutable == b.isMutable && ctx.storageWithin a.storage b.storage
    && (!a.isMutable || ctx.storageWithin b.storage a.storage)

/-- Whether one composite type may refine the other. -/
def compositeWithin (ctx : Context) (a b : CompositeType Nat) : Bool :=
  match a, b with
  | .func a, .func b => ctx.allWithin b.params a.params && ctx.allWithin a.results b.results
  | .struct as, .struct bs =>
      bs.length ≤ as.length && (as.zip bs).all fun (a, b) => ctx.fieldWithin a b
  | .array a, .array b => ctx.fieldWithin a b
  | _, _ => false

def depth (ctx : Context) : Nat → Nat → Nat
  | 0, _ => 0
  | fuel + 1, i =>
      match (ctx.types[i]?).bind (·.parent) with
      | some parent => depth ctx fuel parent + 1
      | none => 0

end Context

namespace Check

open Read

variable (ctx : Context)

/-- A type index that must be known; the message repeats it. -/
def knownType (offset index : Nat) : Read Unit :=
  require (index < ctx.types.size) offset s!"unknown type {index}: type index out of bounds"

def heapFeatures (offset : Nat) (r : RefType Nat) : Read Unit :=
  match r.heap with
  | .concrete _ =>
      demand .functionReferences offset "function references required for index reference types"
  | .abstract heap =>
      match heap with
      | .func | .foreign =>
          if r.nullable then return ()
          else
            demand .functionReferences offset
              "function references required for non-nullable types"
      | .exn | .noExn =>
          demand .exceptions offset
            "exception refs not supported without the exception handling feature"
      | .cont | .noCont =>
          failAt offset
            "continuation refs not supported without the stack switching feature"
      | _ => demand .gc offset "heap types not supported without the gc feature"

def refType (offset : Nat) (r : RefType Nat) : Read Unit := do
  heapFeatures offset r
  match r.heap with
  | .concrete index => knownType ctx offset index
  | .abstract _ => return ()

def valType (offset : Nat) : ValType Nat → Read Unit
  | .ref r => refType ctx offset r
  | _ => return ()

def storageType (offset : Nat) : StorageType Nat → Read Unit
  | .val type => valType ctx offset type
  | _ => return ()

def compositeType (offset : Nat) : CompositeType Nat → Read Unit
  | .func type => do
      for t in type.params ++ type.results do valType ctx offset t
  | .struct fields => do
      demand .gc offset "struct indexed types not supported without the gc feature"
      for field in fields do storageType ctx offset field.storage
  | .array field => do
      demand .gc offset "array indexed types not supported without the gc feature"
      storageType ctx offset field.storage

/-- A type of a group that has been added. -/
def subType (offset index : Nat) (t : SubType Nat) : Read Unit := do
  if !t.isFinal || t.parent.isSome then
    demand .gc offset "gc proposal must be enabled to use subtypes"
  compositeType ctx offset t.composite
  match t.parent with
  | none => return ()
  | some parent =>
      knownType ctx offset parent
      match ctx.types[parent]? with
      | none => return ()
      | some super =>
          require (parent < index) offset "unknown type: supertype must be defined before"
          require (!super.isFinal) offset "sub type cannot have a final super type"
          require (ctx.compositeWithin t.composite super.composite) offset
            "sub type must match super type"
          let depth := ctx.depth (Context.maxDepth + 1) index
          require (depth ≤ Context.maxDepth) offset
            s!"sub type hierarchy too deep: found depth {depth}, cannot exceed depth {Context.maxDepth}"

/-- Every reference that a type makes. -/
def references (t : SubType Nat) : List Nat :=
  ((t.mapM (m := StateM (List Nat)) fun i => do
    modify (i :: ·)
    return i).run []).2.reverse

/-- Adds a group after checking it. -/
def recGroup (offset : Nat) (g : RecGroup) : Read Context := do
  let start := ctx.types.size
  let stop := start + g.types.length
  if g.isExplicit then
    demand .gc offset "rec group usage requires `gc` proposal to be enabled"
  for t in g.types do
    for i in references t do
      require (i < stop) offset s!"unknown type {i}: type index out of bounds"
  let ctx := ctx.addGroup g.types
  for (t, i) in g.types.zipIdx do subType ctx offset (start + i) t
  return ctx

def limits (offset : Nat) (l : Limits) : Read Unit :=
  require (l.maximum.all (l.minimum ≤ ·)) offset "size minimum must not be greater than maximum"

def maxTableEntries : Nat := 10000000

def tableType (offset : Nat) (t : TableType Nat) : Read Unit := do
  if t.element != .func then refType ctx offset t.element
  if t.limits.is64 then
    demand .memory64 offset "memory64 must be enabled for 64-bit tables"
  limits offset t.limits
  require (t.limits.minimum ≤ maxTableEntries) offset "minimum table size is out of bounds"
  if t.limits.isShared then
    failAt offset "shared tables require the shared-everything-threads proposal"

/-- Most pages of a memory. -/
def maxPages (is64 : Bool) (pageSizeLog2 : Nat) : Nat :=
  Nat.pow 2 ((if is64 then 64 else 32) - pageSizeLog2)

def tooManyPages (is64 : Bool) (pageSizeLog2 : Nat) : String :=
  if is64 then s!"memory size must be at most 2**{64 - pageSizeLog2} pages"
  else s!"memory size must be at most {maxPages false pageSizeLog2} pages (4GiB)"

def memoryType (offset : Nat) (l : Limits) : Read Unit := do
  limits offset l
  if l.pageSizeLog2.isSome then
    failAt offset
      "the custom page sizes proposal must be enabled to customize a memory's page size"
  let pageSizeLog2 := 16
  if l.is64 then
    demand .memory64 offset "memory64 must be enabled for 64-bit memories"
  let most := maxPages l.is64 pageSizeLog2
  require (l.minimum ≤ most && l.maximum.all (· ≤ most)) offset (tooManyPages l.is64 pageSizeLog2)
  if l.isShared then
    require l.maximum.isSome offset "shared memory must have maximum size"

def globalType (offset : Nat) (t : GlobalType Nat) : Read Unit := do
  valType ctx offset t.type
  if t.isShared then
    failAt offset "shared globals require the shared-everything-threads proposal"

def funcTypeAt (offset index : Nat) : Read (FuncType Nat) := do
  knownType ctx offset index
  match ctx.funcType? index with
  | some type => return type
  | none => failAt offset s!"type index {index} is not a function type"

def tagType (offset index : Nat) : Read Unit := do
  demand .exceptions offset "exceptions proposal not enabled"
  let type ← funcTypeAt ctx offset index
  require type.results.isEmpty offset "invalid exception type: non-empty tag result type"

/-- The type of a function that must be known. -/
def functionAt (offset index : Nat) : Read (FuncType Nat) := do
  match ctx.signature? index with
  | some type => return type
  | none => failAt offset s!"unknown function {index}: func index out of bounds"

end Check

end Rerun.Wasm
