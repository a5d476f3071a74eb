import Rerun.Wasm.Text.Expression

/-! A written module with its shorthand taken apart: exports and imports inside
definitions, tables and memories given by their contents, types left to be found. -/

namespace Rerun.Wasm.Text

inductive Item
  | types (isExplicit : Bool) (defs : List TypeDef)
  | imported (field : ImportField)
  | func (naming : Naming) (use : TypeUse) (locals : List Local) (code : Expression)
  | table (naming : Naming) (type : TableType Index) (initial : Option Expression)
  | memory (naming : Naming) (type : Limits)
  | global (naming : Naming) (type : GlobalType Index) (initial : Expression)
  | tag (naming : Naming) (use : TypeUse)
  | exported (name : String) (kind : ExternKind) (index : Index)
  | start (index : Index)
  | elem (naming : Naming) (mode : SegmentMode) (payload : ElemPayload)
  | data (naming : Naming) (mode : SegmentMode) (bytes : List UInt8)
  | custom (name : String) (place : Place) (bytes : List UInt8)

namespace Item

/-- The index space that an item adds to. -/
def kind? : Item → Option ExternKind
  | imported field => some field.type.kind
  | func .. => some .func
  | table .. => some .table
  | memory .. => some .memory
  | global .. => some .global
  | tag .. => some .tag
  | _ => none

def count (items : List Item) (kind : ExternKind) : Nat :=
  items.countP (·.kind? == some kind)

def zeroOffset (is64 : Bool) : Expression :=
  [{ Parse.plainInstr (if is64 then "i64.const" else "i32.const") with immediate := .bits 0 }]

def ElemPayload.length : ElemPayload → Nat
  | .functions indices => indices.length
  | .expressions _ items => items.length

/-- Bytes of a page, in powers of two, where none are stated. -/
def defaultPageSizeLog2 : Nat := 16

/-- Pages that hold so many bytes. -/
def pagesFor (bytes pageSizeLog2 : Nat) : Nat :=
  (bytes + Nat.pow 2 pageSizeLog2 - 1) / Nat.pow 2 pageSizeLog2

def exportsOf (names : List String) (kind : ExternKind) (number : Nat) : List Item :=
  names.map fun name => .exported name kind (.number number 0)

/-- The items that a field stands for, `number` being the next index of its kind. -/
def ofField (number : ExternKind → Nat) : Field → List Item
  | .types isExplicit defs => [.types isExplicit defs]
  | .imported field => [.imported field]
  | .func offset naming exports use body =>
      exportsOf exports .func (number .func) ++
        match body with
        | .imported origin =>
            [.imported ⟨offset, origin, naming, .func (.number 0 0), some use⟩]
        | .defined locals code => [.func naming use locals code]
  | .table offset naming exports body =>
      exportsOf exports .table (number .table) ++
        match body with
        | .imported origin type => [.imported ⟨offset, origin, naming, .table type, none⟩]
        | .defined type initial => [.table naming type initial]
        | .filled is64 isShared element payload =>
            let n := ElemPayload.length payload
            [ .table naming ⟨{ is64, isShared, minimum := n, maximum := some n }, element⟩ none,
              .elem {} (.active (some (.number (number .table) 0)) (zeroOffset is64)) payload ]
  | .memory offset naming exports body =>
      exportsOf exports .memory (number .memory) ++
        match body with
        | .imported origin type => [.imported ⟨offset, origin, naming, .memory type, none⟩]
        | .defined type => [.memory naming type]
        | .filled is64 pageSizeLog2 bytes =>
            let n := pagesFor bytes.length (pageSizeLog2.getD defaultPageSizeLog2)
            [ .memory naming { is64, minimum := n, maximum := some n, pageSizeLog2 },
              .data {} (.active (some (.number (number .memory) 0)) (zeroOffset is64)) bytes ]
  | .global offset naming exports type body =>
      exportsOf exports .global (number .global) ++
        match body with
        | .imported origin => [.imported ⟨offset, origin, naming, .global type, none⟩]
        | .defined initial => [.global naming type initial]
  | .tag offset naming exports use origin =>
      exportsOf exports .tag (number .tag) ++
        match origin with
        | some origin => [.imported ⟨offset, origin, naming, .tag (.number 0 0), some use⟩]
        | none => [.tag naming use]
  | .exported name kind index => [.exported name kind index]
  | .start index => [.start index]
  | .elem naming mode payload => [.elem naming mode payload]
  | .data naming mode bytes => [.data naming mode bytes]
  | .custom name place bytes => [.custom name place bytes]

def ofFields (fields : List Field) : List Item :=
  fields.foldl (fun items field => items ++ ofField (count items) field) []

/-- What an import may not come after. -/
def blocking? : Item → Option String
  | func .. => some "function"
  | table .. => some "table"
  | memory .. => some "memory"
  | global .. => some "global"
  | _ => none

/-- Imports come first; `last` is the latest definition before the items. -/
def checkImports (last : Option String) : List Item → Except TextFault Unit
  | [] => .ok ()
  | item :: rest =>
      match item, last with
      | .imported field, some definition => .error ⟨field.offset, s!"import after {definition}"⟩
      | item, last => checkImports (item.blocking? <|> last) rest

end Item

/-- Function types that a use without an index may refer to, and those that are added
because none fits. -/
structure TypePool where
  known : List (FuncType Index × Nat) := []
  added : List (FuncType Index) := []
  next : Nat := 0

namespace TypePool

def eraseOffset : Index → Index
  | .number n _ => .number n 0
  | .name n => .name ⟨n.text, 0⟩

/-- A type without the places its references stand at. -/
def key (type : FuncType Index) : FuncType Index :=
  Id.run (type.mapM (m := Id) eraseOffset)

def insert (pool : TypePool) (type : FuncType Index) (number : Nat) : TypePool :=
  let type := key type
  if (pool.known.lookup type).isSome then pool
  else { pool with known := (type, number) :: pool.known }

/-- The number of a type; it is added at the end if it is new. -/
def find (pool : TypePool) (type : FuncType Index) : Nat × TypePool :=
  match pool.known.lookup (key type) with
  | some number => (number, pool)
  | none =>
      let pool := pool.insert type pool.next
      (pool.next, { pool with added := pool.added ++ [key type], next := pool.next + 1 })

/-- The types that are defined, of which those outside of groups can be found. -/
def ofItems (items : List Item) : TypePool :=
  items.foldl
    (fun pool item =>
      match item with
      | .types isExplicit defs =>
          defs.foldl
            (fun pool d =>
              let number := pool.next
              let pool := { pool with next := number + 1 }
              match d.type.composite with
              | .func type => if isExplicit then pool else pool.insert type number
              | _ => pool)
            pool
      | _ => pool)
    {}

abbrev Fill := StateM TypePool

def fillUse (use : TypeUse) : Fill TypeUse := do
  match use.index with
  | some _ => return use
  | none =>
      let type : FuncType Index := (use.written.map Signature.toFunc).getD ⟨[], []⟩
      let number ← modifyGet fun pool => pool.find type
      return { use with index := some (.number number 0) }

/-- A block whose type can be written short is left as it is. -/
def isShort (use : TypeUse) : Bool :=
  match use.written with
  | none => true
  | some s => s.params.isEmpty && s.results.length ≤ 1

def fillInstr (i : TextInstr) : Fill TextInstr := do
  match i.use with
  | none => return i
  | some use =>
      if i.operation.op.opensBlock && use.index.isNone && isShort use then return i
      else return { i with use := some (← fillUse use) }

def fillCode (code : Expression) : Fill Expression := code.mapM fillInstr

def fillMode : SegmentMode → Fill SegmentMode
  | .active target offset => return .active target (← fillCode offset)
  | mode => return mode

def fillPayload : ElemPayload → Fill ElemPayload
  | .expressions type items => return .expressions type (← items.mapM fillCode)
  | payload => return payload

/-- Gives every type use its index. -/
def fill : Item → Fill Item
  | .imported field =>
      match field.use with
      | none => return .imported field
      | some use => return .imported { field with use := some (← fillUse use) }
  | .func naming use locals code => do
      let use ← fillUse use
      return .func naming use locals (← fillCode code)
  | .table naming type (some initial) =>
      return .table naming type (some (← fillCode initial))
  | .global naming type initial => return .global naming type (← fillCode initial)
  | .tag naming use => return .tag naming (← fillUse use)
  | .elem naming mode payload => do
      let mode ← fillMode mode
      return .elem naming mode (← fillPayload payload)
  | .data naming mode bytes => return .data naming (← fillMode mode) bytes
  | item => return item

end TypePool

end Rerun.Wasm.Text
