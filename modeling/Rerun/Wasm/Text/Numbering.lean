import Rerun.Wasm.Annotated
import Rerun.Wasm.Text.Scope

/-! From names to numbers: a written module becomes a numbered one. -/

namespace Rerun.Wasm.Text

namespace Scope

def body (scope : Scope) : BodyScope := { outer := scope }

def code (scope : Scope) (code : Expression) : Except TextFault Code := scope.body.code code

def tableType (scope : Scope) (t : TableType Index) : Except TextFault (TableType Nat) :=
  return ⟨t.limits, ← t.element.mapM scope.typeIndex⟩

def globalType (scope : Scope) (t : GlobalType Index) : Except TextFault (GlobalType Nat) :=
  return ⟨← t.type.mapM scope.typeIndex, t.isMutable, t.isShared⟩

def externType (scope : Scope) (field : ImportField) : Except TextFault (ExternType Nat) := do
  let used : Except TextFault Nat :=
    match field.use with
    | some use => scope.use use
    | none => .ok 0
  match field.type with
  | .func _ => return .func (← used)
  | .tag _ => return .tag (← used)
  | .table type => return .table (← scope.tableType type)
  | .memory type => return .memory type
  | .global type => return .global (← scope.globalType type)

/-- The scope of a function's body.  Parameters have names where the type is written
at the function. -/
def bodyScope (scope : Scope) (number : Nat) (use : TypeUse) (locals : List Local) :
    Except TextFault BodyScope := do
  let params : List (Option Name) :=
    match use.written, scope.types[number]? with
    | some s, _ => s.params.map (·.naming.id)
    | none, some (some type) => type.params.map fun _ => none
    | none, _ => []
  let names ← addAll .local (params ++ locals.map (·.naming.id))
  return { outer := scope, locals := names }

def elemItems (scope : Scope) : ElemPayload → Except TextFault ElemItems
  | .functions indices => return .functions (← indices.mapM (scope.find .func))
  | .expressions type items => do
      let type ← type.mapM scope.typeIndex
      return .expressions type (← items.mapM scope.code)

def elemMode (scope : Scope) : SegmentMode → Except TextFault ElemMode
  | .passive => return .passive
  | .declared => return .declared
  | .active table offset => do
      let table ← table.mapM (scope.find .table)
      return .active table (← scope.code offset)

def dataMode (scope : Scope) : SegmentMode → Except TextFault DataMode
  | .active memory offset => do
      let memory ← scope.find .memory (memory.getD (.number 0 0))
      return .active memory (← scope.code offset)
  | _ => return .passive

/-- Adds an item by number to the module. -/
def addTo (scope : Scope) (m : Module) (item : Item) : Except TextFault Module := do
  match item with
  | .types isExplicit defs =>
      let types ← defs.mapM fun d => d.type.mapM scope.typeIndex
      return { m with types := m.types ++ [⟨isExplicit, types⟩] }
  | .imported field =>
      let type ← scope.externType field
      return { m with imports := m.imports ++ [⟨field.origin.moduleName, field.origin.name, type⟩] }
  | .func _ use locals code =>
      let number ← scope.use use
      let types ← locals.mapM fun l => l.type.mapM scope.typeIndex
      let code ← (← scope.bodyScope number use locals).code code
      return { m with functions := m.functions ++ [number], bodies := m.bodies ++ [⟨types, code⟩] }
  | .table _ type initial =>
      let type ← scope.tableType type
      return { m with tables := m.tables ++ [⟨type, ← initial.mapM scope.code⟩] }
  | .memory _ type => return { m with memories := m.memories ++ [type] }
  | .global _ type initial =>
      let type ← scope.globalType type
      return { m with globals := m.globals ++ [⟨type, ← scope.code initial⟩] }
  | .tag _ use => return { m with tags := m.tags ++ [← scope.use use] }
  | .exported name kind index =>
      return { m with exports := m.exports ++ [⟨name, kind, ← scope.find (.ofKind kind) index⟩] }
  | .start index => return { m with start := some (← scope.find .func index) }
  | .elem _ mode payload =>
      let mode ← scope.elemMode mode
      return { m with elems := m.elems ++ [⟨mode, ← scope.elemItems payload⟩] }
  | .data _ mode bytes =>
      return { m with datas := m.datas ++ [⟨← scope.dataMode mode, ⟨bytes.toArray⟩⟩] }
  | .custom _ _ _ => return m

end Scope

namespace KeptNames

/-- The names among things that are numbered from zero. -/
def numbered (namings : List Naming) : NameMap :=
  (namings.mapIdx fun i naming => naming.kept.map fun name => (i, name)).filterMap id

def ofKind (kind : ExternKind) (items : List Item) : NameMap :=
  numbered <| items.filterMap fun item =>
    if item.kind? = some kind then
      match item with
      | .imported field => some field.naming
      | .func naming _ _ _ | .table naming _ _ | .memory naming _ | .global naming _ _
      | .tag naming _ => some naming
      | _ => none
    else none

/-- Names of parameters that are written at the function, and of its locals. -/
def localsOf (use : TypeUse) (locals : List Local) : NameMap :=
  let params : List Local := (use.written.map (·.params)).getD []
  numbered ((params ++ locals).map (·.naming))

def labelsOf (code : Expression) : NameMap :=
  numbered ((code.filter fun i => i.operation.op.opensBlock).map (·.naming))

/-- A map for each function that has names, by the number of the function. -/
def perFunction (items : List Item) (f : TypeUse → List Local → Expression → NameMap) :
    List (Nat × NameMap) :=
  let functions := items.filter (·.kind? == some .func)
  let maps := functions.mapIdx fun i item =>
    match item with
    | .func _ use locals code => (i, f use locals code)
    | _ => (i, [])
  maps.filter fun entry => !entry.2.isEmpty

def typeDefs (items : List Item) : List TypeDef :=
  items.flatMap fun item =>
    match item with
    | .types _ defs => defs
    | _ => []

/-- Names of the fields of structures that are defined outside of groups. -/
def fieldsOf (items : List Item) : List (Nat × NameMap) :=
  let named := (typeDefs items).mapIdx fun i d =>
    (i, numbered (d.fieldNames.map fun id => { id }))
  named.filter fun entry => !entry.2.isEmpty

def ofItems (naming : Naming) (items : List Item) : KeptNames :=
  { module := naming.kept
    funcs := ofKind .func items
    locals := perFunction items fun use locals _ => localsOf use locals
    labels := perFunction items fun _ _ code => labelsOf code
    types := numbered ((typeDefs items).map (·.naming))
    tables := ofKind .table items
    memories := ofKind .memory items
    globals := ofKind .global items
    elems := numbered <| items.filterMap fun item =>
      match item with
      | .elem naming _ _ => some naming
      | _ => none
    datas := numbered <| items.filterMap fun item =>
      match item with
      | .data naming _ _ => some naming
      | _ => none
    fields := fieldsOf items
    tags := ofKind .tag items }

end KeptNames

def hintsOf (code : Expression) : List (Nat × Nat) :=
  (code.mapIdx fun i instr => instr.hint.map fun hint => (i, hint)).filterMap id

/-- The numbered form of the fields of a module. -/
def numberFields (naming : Naming) (fields : List Field) : Except TextFault Annotated := do
  let items := Item.ofFields fields
  Item.checkImports none items
  let (items, pool) := (items.mapM TypePool.fill).run (TypePool.ofItems items)
  let scope ← Scope.ofItems items pool.added
  let m ← items.foldlM scope.addTo {}
  let added ← pool.added.mapM scope.funcType
  let groups := added.map fun type => ⟨false, [⟨true, none, .func type⟩]⟩
  return {
    module := { m with types := m.types ++ groups }
    names := KeptNames.ofItems naming items
    customs := items.filterMap fun item =>
      match item with
      | .custom name place bytes => some ⟨place, name, bytes⟩
      | _ => none
    hints := items.filterMap fun item =>
      match item with
      | .func _ _ _ code => some (hintsOf code)
      | _ => none }

end Rerun.Wasm.Text
