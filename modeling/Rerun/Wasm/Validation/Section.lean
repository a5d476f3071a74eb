import Rerun.Wasm.Validation.Body

/-! Validation of the sections of a module, each as it is read. -/

namespace Rerun.Wasm

/-- Sections that may stand once, in their order. -/
inductive SectionKind
  | type | imported | function | table | memory | tag | global | exported | start | elem
  | dataCount | code | data
deriving DecidableEq, Repr

namespace SectionKind

/-- In the order in which they have to stand, with their numbers. -/
def ids : List (SectionKind × UInt8) :=
  [ (type, 1), (imported, 2), (function, 3), (table, 4), (memory, 5), (tag, 13), (global, 6),
    (exported, 7), (start, 8), (elem, 9), (dataCount, 12), (code, 10), (data, 11) ]

def ofId? (id : UInt8) : Option SectionKind := (ids.find? (·.2 == id)).map (·.1)

/-- The place in the order, from 1. -/
def rank (kind : SectionKind) : Nat := ids.findIdx (·.1 == kind) + 1

end SectionKind

/-- How far the reading of a module has come. -/
structure Progress where
  context : Context := {}
  module : Module := {}
  /-- Rank of the latest section. -/
  rank : Nat := 0
  expectedBodies : Option Nat := none
  /-- In the order of the functions. -/
  ranges : List BodyRange := []

abbrev CheckModule := StateT Progress Read

namespace CheckModule

open Read

variable {α : Type}

def context : CheckModule Context := return (← get).context

def setContext (ctx : Context) : CheckModule Unit := modify fun p => { p with context := ctx }

def updateContext (f : Context → Context) : CheckModule Unit :=
  modify fun p => { p with context := f p.context }

def updateModule (f : Module → Module) : CheckModule Unit :=
  modify fun p => { p with module := f p.module }

/-- Sections stand in order and at most once. -/
def inOrder (kind : SectionKind) (offset : Nat) : CheckModule Unit := do
  let p ← get
  if kind.rank ≤ p.rank then failAt offset "section out of order"
  set { p with rank := kind.rank }

def atMost (limit present added offset : Nat) (what : String) : CheckModule Unit := do
  if limit < present + added then failAt offset s!"{what} count exceeds limit of {limit}"

def itemsFrom (item : Nat → CheckModule α) : Nat → CheckModule (List α)
  | 0 => return []
  | n + 1 => do
      let a ← item (← position)
      return a :: (← itemsFrom item n)

/-- A section that is a sequence of items, each of which is given its offset. -/
def items (kind : SectionKind) (what : String) (limit : Nat) (present : Context → Nat)
    (item : Nat → CheckModule α) : CheckModule (List α) := do
  let start ← position
  let count ← u32
  if kind = .tag then demand .exceptions start "exceptions proposal not enabled"
  inOrder kind start
  atMost limit (present (← context)) count start what
  if kind = .function then modify fun p => { p with expectedBodies := some count }
  let found ← itemsFrom item count
  if !(← atEnd) then
    fail "section size mismatch: unexpected data at the end of the section"
  return found

def maxItems : Nat := 1000000

def maxSegments : Nat := 100000

/-- Limit for tables and for memories. -/
def maxStores : Nat := 100

/-! Definitions -/

def addFunction (offset type : Nat) : CheckModule Unit := do
  let _ ← Check.funcTypeAt (← context) offset type
  updateContext fun ctx => { ctx with functions := ctx.functions.push type }

def addTable (type : TableType Nat) : CheckModule Unit :=
  updateContext fun ctx => { ctx with tables := ctx.tables.push type }

def addMemory (type : Limits) : CheckModule Unit :=
  updateContext fun ctx => { ctx with memories := ctx.memories.push type }

def addGlobal (type : GlobalType Nat) : CheckModule Unit :=
  updateContext fun ctx => { ctx with globals := ctx.globals.push type }

def addTag (offset type : Nat) : CheckModule Unit := do
  Check.tagType (← context) offset type
  updateContext fun ctx => { ctx with tags := ctx.tags.push type }

/-- Checks a constant that has been read.  In a data segment it declares nothing. -/
def constant (type : ValType Nat) (code : List Read.Located) : CheckModule Code := do
  let p ← get
  setContext (← Constant.validate p.context (p.rank < SectionKind.data.rank) type code)
  return Constant.code code

def recGroup (offset : Nat) : CheckModule RecGroup := do
  let group ← Read.recGroup
  setContext (← Check.recGroup (← context) offset group)
  return group

/-! Imports -/

def externKind : Read ExternKind := do
  let b ← u8
  match ExternKind.ofCode? b with
  | some kind => return kind
  | none => invalidLeadingByte b "external kind"

def tag : Read Nat := do
  if (← u8) != 0 then failBefore "invalid tag attributes"
  u32

def externType : Read (ExternType Nat) := do
  match ← externKind with
  | .func => return .func (← u32)
  | .table => return .table (← tableType)
  | .memory => return .memory (← memoryType)
  | .global => return .global (← globalType)
  | .tag => return .tag (← tag)

def addImported (offset : Nat) (type : ExternType Nat) : CheckModule Unit := do
  match type with
  | .func type => addFunction offset type
  | .table type =>
      Check.tableType (← context) offset type
      addTable type
      atMost maxStores (← context).tables.size 0 offset "tables"
  | .memory type =>
      Check.memoryType offset type
      addMemory type
      atMost maxStores (← context).memories.size 0 offset "memories"
  | .global type =>
      Check.globalType (← context) offset type
      addGlobal type
      updateContext fun ctx => { ctx with importedGlobals := ctx.importedGlobals + 1 }
  | .tag type => addTag offset type

def imported (offset : Nat) : CheckModule Import := do
  let moduleName ← string
  let name ← string
  let type ← externType
  addImported offset type
  return ⟨moduleName, name, type⟩

/-! Functions, tables, memories, tags and globals -/

/-- The type of a function whose body is to follow. -/
def declaredFunction (offset : Nat) : CheckModule Nat := do
  let type ← u32
  addFunction offset type
  return type

/-- Two bytes before its type tell that a table is written with what fills it. -/
def tableMark : Read Bool := do
  if (← peek) == 0x40 then
    let _ ← u8
    if (← u8) != 0 then failBefore "invalid table encoding"
    return true
  else return false

/-- A table as it is written. -/
def rawTable : Read (TableType Nat × Option (List Read.Located)) := do
  let isFilled ← tableMark
  let type ← tableType
  if isFilled then return (type, some (← constantCode)) else return (type, none)

/-- What fills a table; without it, the elements have to be nullable. -/
def tableInitial (offset : Nat) (element : RefType Nat) :
    Option (List Read.Located) → CheckModule (Option Code)
  | none => do
      require element.nullable offset "type mismatch: non-defaultable element type"
      return none
  | some code => do
      demand .functionReferences offset
        "tables with expression initializers require the function-references proposal"
      return some (← constant (.ref element) code)

def table (offset : Nat) : CheckModule Table := do
  let (type, code) ← rawTable
  Check.tableType (← context) offset type
  let initial ← tableInitial offset type.element code
  addTable type
  return ⟨type, initial⟩

def memory (offset : Nat) : CheckModule Limits := do
  let type ← memoryType
  Check.memoryType offset type
  addMemory type
  return type

def declaredTag (offset : Nat) : CheckModule Nat := do
  let type ← tag
  addTag offset type
  return type

def global (offset : Nat) : CheckModule Global := do
  let type ← globalType
  let code ← constantCode
  Check.globalType (← context) offset type
  let initial ← constant type.type code
  addGlobal type
  return ⟨type, initial⟩

/-! Exports -/

def exportedWord : ExternKind → String
  | .func => "function"
  | kind => kind.name

def present (ctx : Context) : ExternKind → Nat
  | .func => ctx.functions.size
  | .table => ctx.tables.size
  | .memory => ctx.memories.size
  | .global => ctx.globals.size
  | .tag => ctx.tags.size

def exported (offset : Nat) : CheckModule Export := do
  let name ← string
  let kind ← externKind
  let index ← u32
  let ctx ← context
  let word := exportedWord kind
  require (index < present ctx kind) offset
    s!"unknown {word} {index}: exported {word} index out of bounds"
  require (!ctx.exports.contains name) offset
    s!"duplicate export name `{name}` already defined"
  let ctx := if kind = .func then ctx.declare index else ctx
  setContext { ctx with exports := name :: ctx.exports }
  return ⟨name, kind, index⟩

/-! Segments -/

inductive RawMode
  | passive
  | active (index : Option Nat) (offset : List Read.Located)
  | declared

def elemMode (flags : Nat) : Read RawMode := do
  match flags % 4 with
  | 0 => return .active none (← constantCode)
  | 1 => return .passive
  | 2 =>
      let table ← u32
      return .active (some table) (← constantCode)
  | _ => return .declared

/-- The type of the items; without one they are functions. -/
def elemType (flags : Nat) : Read (Option (RefType Nat)) := do
  let areExpressions := 4 ≤ flags
  if flags % 4 == 0 then return if areExpressions then some .func else none
  else if areExpressions then return some (← refType)
  else
    if (← externKind) != .func then
      failBefore "only the function external type is supported in elem segment"
    return none

/-- Functions, each with the byte it stands at, or constants of a type. -/
inductive RawItems
  | functions (items : List (Nat × Nat))
  | expressions (type : RefType Nat) (items : List (List Read.Located))

namespace RawItems

def count : RawItems → Nat
  | functions items => items.length
  | expressions _ items => items.length

/-- The type of the elements. -/
def element : RawItems → RefType Nat
  | functions _ => ⟨false, .abstract .func⟩
  | expressions type _ => type

end RawItems

def functionItem : Read (Nat × Nat) := do
  let offset ← position
  return (offset, ← u32)

def rawItems : Option (RefType Nat) → Read RawItems
  | none => return .functions (← times functionItem (← u32))
  | some type => return .expressions type (← times constantCode (← u32))

/-- A segment of elements as it is written. -/
def rawElem : Read (RawMode × RawItems) := do
  let flags ← u32
  if 8 ≤ flags then failBefore "invalid flags byte in element segment"
  let mode ← elemMode flags
  return (mode, ← rawItems (← elemType flags))

/-- A type that is written has to be known. -/
def checkElement (offset : Nat) : RawItems → CheckModule Unit
  | .functions _ => return ()
  | .expressions type _ => do Check.refType (← context) offset type

def placeElem (offset : Nat) (element : RefType Nat) : RawMode → CheckModule ElemMode
  | .passive => return .passive
  | .declared => return .declared
  | .active table code => do
      let ctx ← context
      let index := table.getD 0
      match ctx.tables[index]? with
      | none => failAt offset s!"unknown table {index}: table index out of bounds"
      | some t =>
          require (ctx.refWithin element t.element) offset
            s!"type mismatch: invalid element type `{element.shown}` for table type `{t.element.shown}`"
          return .active table (← constant (CheckBody.indexType t.limits.is64) code)

def elemFunction (offset function : Nat) : CheckModule Nat := do
  let _ ← Check.functionAt (← context) offset function
  updateContext (·.declare function)
  return function

def elemItems : RawItems → CheckModule ElemItems
  | .functions items =>
      return .functions (← items.mapM fun (offset, function) => elemFunction offset function)
  | .expressions type items => return .expressions type (← items.mapM (constant (.ref type)))

def addElem (element : RefType Nat) : CheckModule Unit :=
  updateContext fun ctx => { ctx with elems := ctx.elems.push element }

def elem (offset : Nat) : CheckModule Elem := do
  let (mode, items) ← rawElem
  checkElement offset items
  let mode ← placeElem offset items.element mode
  require (items.count ≤ Check.maxTableEntries) offset "number of elements is out of bounds"
  let found ← elemItems items
  addElem items.element
  return ⟨mode, found⟩

def dataMode (start : Nat) : Read RawMode := do
  match ← u32 with
  | 0 => return .active none (← constantCode)
  | 1 => return .passive
  | 2 =>
      let memory ← u32
      return .active (some memory) (← constantCode)
  | _ => failAt start "invalid flags byte in data segment"

def data (offset : Nat) : CheckModule Data := do
  let mode ← dataMode offset
  let bytes ← bytes (← u32)
  match mode with
  | .active memory code =>
      let memory := memory.getD 0
      match (← context).memories[memory]? with
      | none => failAt offset s!"unknown memory {memory}: memory index out of bounds"
      | some type =>
          return ⟨.active memory (← constant (CheckBody.indexType type.is64) code), bytes⟩
  | _ => return ⟨.passive, bytes⟩

/-! Sections of one number -/

def single (kind : SectionKind) (what : String) : CheckModule Nat := do
  let start ← position
  let n ← u32
  if !(← atEnd) then fail s!"unexpected content in the {what} section"
  inOrder kind start
  return n

def start : CheckModule Unit := do
  let offset ← position
  let function ← single .start "start"
  let type ← Check.functionAt (← context) offset function
  require (type.params.isEmpty && type.results.isEmpty) offset "invalid start function type"
  updateModule fun m => { m with start := some function }

def dataCount : CheckModule Unit := do
  let offset ← position
  let n ← single .dataCount "data count"
  require (n ≤ maxSegments) offset "data count section specifies too many data segments"
  updateContext fun ctx => { ctx with dataCount := some n }

/-! The code section: where the bodies lie -/

/-- A body may reach beyond its section only to be refused there. -/
def bodyRanges (stop : Nat) : List Nat → Read (List BodyRange)
  | [] => return []
  | type :: types => do
      let offset ← position
      let size ← u32
      let start ← position
      let _ ← bytes size
      if stop < start + size then failAt offset endOfFile
      return ⟨type, start, size⟩ :: (← bodyRanges stop types)

/-- As many bodies are there as functions were declared. -/
def requireBodies (offset count : Nat) : Option Nat → Read Unit
  | some n => require (n == count) offset "function and code section have inconsistent lengths"
  | none => require (count == 0) offset "code section without function section"

def code (size : Nat) : CheckModule Unit := do
  let start ← position
  let stop := start + size
  let count ← u32
  if stop < (← position) then failAt start endOfFile
  inOrder .code start
  let p ← get
  requireBodies start count p.expectedBodies
  let ranges ← bodyRanges stop p.module.functions
  if (← position) < stop then fail "trailing bytes at end of section"
  modify fun p => { p with ranges, expectedBodies := none }

end CheckModule

end Rerun.Wasm
