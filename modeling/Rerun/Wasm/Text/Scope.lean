import Rerun.Wasm.Text.Item

/-! What the names of a module stand for. -/

namespace Rerun.Wasm.Text

inductive Space
  | func | table | memory | global | tag | type | elem | data | local | field
deriving DecidableEq, Repr

namespace Space

def name : Space → String
  | func => "func"
  | table => "table"
  | memory => "memory"
  | global => "global"
  | tag => "tag"
  | type => "type"
  | elem => "elem"
  | data => "data"
  | «local» => "local"
  | field => "field"

def ofKind : ExternKind → Space
  | .func => func
  | .table => table
  | .memory => memory
  | .global => global
  | .tag => tag

end Space

/-- An index space: the names in it and the next free index. -/
structure Names where
  known : List (String × Nat) := []
  next : Nat := 0

namespace Names

/-- Takes the next index; a name may be given to one index only. -/
def add (space : Space) (names : Names) (id : Option Name) : Except TextFault Names :=
  match id with
  | none => .ok { names with next := names.next + 1 }
  | some id =>
      if (names.known.lookup id.text).isSome then
        .error ⟨id.offset, s!"duplicate {space.name} identifier"⟩
      else .ok ⟨(id.text, names.next) :: names.known, names.next + 1⟩

def notFound (space : String) (name : Name) : TextFault :=
  ⟨name.offset, s!"unknown {space}: failed to find name `${name.text}`"⟩

def find (space : Space) (names : Names) : Index → Except TextFault Nat
  | .number n _ => .ok n
  | .name name =>
      match names.known.lookup name.text with
      | some n => .ok n
      | none => .error (notFound space.name name)

end Names

/-- The names of a whole module. -/
structure Scope where
  spaces : List (Space × Names) := []
  /-- Fields of the structure types that name some. -/
  fields : List (Nat × Names) := []
  /-- The function types in the order of their indices. -/
  types : Array (Option (FuncType Index)) := #[]

namespace Scope

def names (scope : Scope) (space : Space) : Names := (scope.spaces.lookup space).getD {}

def add (space : Space) (scope : Scope) (id : Option Name) : Except TextFault Scope := do
  let names ← (scope.names space).add space id
  return { scope with spaces := (space, names) :: scope.spaces.filter (·.1 != space) }

def addAll (space : Space) (ids : List (Option Name)) : Except TextFault Names :=
  ids.foldlM (Names.add space) {}

def addType (scope : Scope) (d : TypeDef) : Except TextFault Scope := do
  let number := (scope.names .type).next
  let scope ← scope.add .type d.naming.id
  let type :=
    match d.type.composite with
    | .func type => some type
    | _ => none
  let fields ← addAll .field d.fieldNames
  let fields := if fields.known.isEmpty then scope.fields else (number, fields) :: scope.fields
  return { scope with types := scope.types.push type, fields }

def addItem (scope : Scope) (item : Item) : Except TextFault Scope :=
  match item with
  | .types _ defs => defs.foldlM addType scope
  | .imported field => scope.add (.ofKind field.type.kind) field.naming.id
  | .func naming _ _ _ => scope.add .func naming.id
  | .table naming _ _ => scope.add .table naming.id
  | .memory naming _ => scope.add .memory naming.id
  | .global naming _ _ => scope.add .global naming.id
  | .tag naming _ => scope.add .tag naming.id
  | .elem naming _ _ => scope.add .elem naming.id
  | .data naming _ _ => scope.add .data naming.id
  | _ => .ok scope

/-- The scope of the items, and after them of the types that were added. -/
def ofItems (items : List Item) (added : List (FuncType Index)) : Except TextFault Scope := do
  let scope ← items.foldlM addItem {}
  return { scope with types := scope.types ++ (added.map some).toArray }

def find (scope : Scope) (space : Space) (i : Index) : Except TextFault Nat :=
  (scope.names space).find space i

def typeIndex (scope : Scope) (i : Index) : Except TextFault Nat := scope.find .type i

def funcType (scope : Scope) (type : FuncType Index) : Except TextFault (FuncType Nat) :=
  type.mapM scope.typeIndex

/-- The type that a filled use refers to; what is written beside it has to agree. -/
def use (scope : Scope) (use : TypeUse) : Except TextFault Nat := do
  match use.index with
  | none => return 0
  | some index =>
      let number ← scope.typeIndex index
      match use.written with
      | none => return number
      | some s =>
          let written ← scope.funcType s.toFunc
          match scope.types[number]? with
          | some (some type) =>
              match scope.funcType type with
              | .ok type =>
                  if type = written then return number
                  else throw ⟨index.offset, "inline function type doesn't match type reference"⟩
              | .error _ =>
                  throw ⟨index.offset, "inline function type doesn't match type reference"⟩
          | _ => return number

end Scope

/-- The scope of a body: locals, and the labels of the open blocks from the inside
out. -/
structure BodyScope where
  outer : Scope
  locals : Names := {}
  labels : List (Option Name) := []

namespace BodyScope

def labelDepth? (name : Name) (labels : List (Option Name)) : Option Nat :=
  labels.findIdx? fun label => label.any (·.text == name.text)

def label (scope : BodyScope) : Index → Except TextFault Nat
  | .number n _ => .ok n
  | .name name =>
      match labelDepth? name scope.labels with
      | some n => .ok n
      | none => .error (Names.notFound "label" name)

/-- The label repeated at an `else` or an `end` is that of the block. -/
def checkLabel (label : Option (Option Name)) (repeated : Option Name) : Except TextFault Unit :=
  match label, repeated with
  | some label, some repeated =>
      if label.any (·.text == repeated.text) then .ok ()
      else .error ⟨repeated.offset, "mismatching labels between end and block"⟩
  | _, _ => .ok ()

def blockType (scope : BodyScope) (use : TypeUse) : Except TextFault (BlockType Nat) := do
  if use.index.isSome then return .func (← scope.outer.use use)
  else
    match use.written with
    | some { results := [type], .. } => return .result (← type.mapM scope.outer.typeIndex)
    | _ => return .empty

def memArg (scope : BodyScope) (arg : MemArg Index) : Except TextFault (MemArg Nat) :=
  return { arg with memory := ← scope.outer.find .memory arg.memory }

def valType (scope : BodyScope) (t : ValType Index) : Except TextFault (ValType Nat) :=
  t.mapM scope.outer.typeIndex

def catchClause (scope : BodyScope) (c : Catch Index) : Except TextFault (Catch Nat) := do
  let tag ← c.tag.mapM (scope.outer.find .tag)
  return ⟨tag, c.withReference, ← scope.label c.label⟩

/-- A field of the structure type `type`. -/
def fieldIndex (scope : BodyScope) (type : Nat) : Index → Except TextFault Nat
  | .number n _ => .ok n
  | .name name =>
      match scope.outer.fields.lookup type with
      | some names => names.find .field (.name name)
      | none =>
          .error ⟨name.offset,
            s!"accessing a named field `{name.text}` in a struct without named fields, type index {type}"⟩

def pairSpaces : Shape → Space × Space
  | .tableInit => (.elem, .table)
  | .tableCopy => (.table, .table)
  | .memoryInit => (.data, .memory)
  | .memoryCopy => (.memory, .memory)
  | .typeData => (.type, .data)
  | .typeElem => (.type, .elem)
  | _ => (.type, .type)

def indexSpace : Shape → Space
  | .func => .func
  | .local => .local
  | .global => .global
  | .tag => .tag
  | .elem => .elem
  | .data => .data
  | .table => .table
  | .memory => .memory
  | _ => .type

def index (scope : BodyScope) (shape : Shape) (i : Index) : Except TextFault Nat :=
  match shape with
  | .label => scope.label i
  | .local => scope.locals.find .local i
  | shape => scope.outer.find (indexSpace shape) i

def pair (scope : BodyScope) (shape : Shape) (i j : Index) : Except TextFault (Nat × Nat) := do
  let (first, second) := pairSpaces shape
  let n ← scope.outer.find first i
  match shape with
  | .field => return (n, ← scope.fieldIndex n j)
  | _ => return (n, ← scope.outer.find second j)

def immediate (scope : BodyScope) (shape : Shape) (use : Option TypeUse) :
    Immediate Index → Except TextFault (Immediate Nat)
  | .none =>
      match use with
      | some use => return .block (← scope.blockType use)
      | none => return .none
  | .block _ => return .none
  | .tryTable _ catches => do
      let type ← match use with
        | some use => scope.blockType use
        | none => pure .empty
      return .tryTable type (← catches.mapM scope.catchClause)
  | .index i =>
      match use with
      | some use => do
          let table ← scope.outer.find .table i
          return .pair (← scope.outer.use use) table
      | none => return .index (← scope.index shape i)
  | .pair i j => do
      let (n, k) ← scope.pair shape i j
      return .pair n k
  | .counted i n => return .counted (← scope.outer.typeIndex i) n
  | .labels targets default => do
      let targets ← targets.mapM scope.label
      return .labels targets (← scope.label default)
  | .select types => return .select (← types.mapM scope.valType)
  | .heap type => return .heap (← type.mapM scope.outer.typeIndex)
  | .ref type => return .ref (← type.mapM scope.outer.typeIndex)
  | .cast label source target => do
      let label ← scope.label label
      let source ← source.mapM scope.outer.typeIndex
      return .cast label source (← target.mapM scope.outer.typeIndex)
  | .access arg => return .access (← scope.memArg arg)
  | .accessLane arg lane => return .accessLane (← scope.memArg arg) lane
  | .bits n => return .bits n
  | .lanes ns => return .lanes ns

/-- An instruction by number, and the scope after it. -/
def instr (scope : BodyScope) (i : TextInstr) : Except TextFault (Instr Nat × BodyScope) := do
  let immediate (scope : BodyScope) : Except TextFault (Instr Nat) :=
    return ⟨i.operation, ← scope.immediate i.operation.shape i.use i.immediate⟩
  match i.operation.op with
  | .otherwise =>
      checkLabel scope.labels.head? i.naming.id
      return (⟨i.operation, .none⟩, scope)
  | .finish =>
      checkLabel scope.labels.head? i.naming.id
      return (⟨i.operation, .none⟩, { scope with labels := scope.labels.tail })
  | .delegate =>
      let scope := { scope with labels := scope.labels.tail }
      return (← immediate scope, scope)
  | op =>
      let numbered ← immediate scope
      if op.opensBlock then
        return (numbered, { scope with labels := i.naming.id :: scope.labels })
      else return (numbered, scope)

def code (scope : BodyScope) : Expression → Except TextFault Code
  | [] => .ok []
  | i :: rest => do
      let (numbered, scope) ← scope.instr i
      return numbered :: (← code scope rest)

end BodyScope

end Rerun.Wasm.Text
