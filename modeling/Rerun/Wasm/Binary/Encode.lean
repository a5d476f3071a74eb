import Rerun.Wasm.Annotated
import Rerun.Wasm.Binary.Leb

/-! The binary form of a module. -/

namespace Rerun.Wasm.Encode

abbrev Bytes := List UInt8

def nat (n : Nat) : Bytes := Leb.unsigned n

/-- So many bytes of a number, the lowest first. -/
def littleEndian (size n : Nat) : Bytes :=
  (List.range size).map fun i => (n / Nat.pow 256 i % 256).toUInt8

def vector (f : α → Bytes) (items : List α) : Bytes := nat items.length ++ items.flatMap f

def sized (bytes : Bytes) : Bytes := nat bytes.length ++ bytes

def string (s : String) : Bytes := sized s.toUTF8.toList

def heapType : HeapType Nat → Bytes
  | .abstract heap => [heap.code]
  | .concrete index => Leb.signed index

def refType (r : RefType Nat) : Bytes :=
  match r.nullable, r.heap with
  | true, .abstract heap => [heap.code]
  | true, heap => 0x63 :: heapType heap
  | false, heap => 0x64 :: heapType heap

def valType : ValType Nat → Bytes
  | .i32 => [0x7f]
  | .i64 => [0x7e]
  | .f32 => [0x7d]
  | .f64 => [0x7c]
  | .v128 => [0x7b]
  | .ref type => refType type

def flag (b : Bool) : UInt8 := if b then 1 else 0

def fieldType (t : FieldType Nat) : Bytes :=
  let storage : Bytes :=
    match t.storage with
    | .i8 => [0x78]
    | .i16 => [0x77]
    | .val type => valType type
  storage ++ [flag t.isMutable]

def compositeType : CompositeType Nat → Bytes
  | .func type => 0x60 :: (vector valType type.params ++ vector valType type.results)
  | .struct fields => 0x5f :: vector fieldType fields
  | .array field => 0x5e :: fieldType field

def subType (t : SubType Nat) : Bytes :=
  match t.isFinal, t.parent with
  | true, none => compositeType t.composite
  | isFinal, parent =>
      (if isFinal then 0x4f else 0x50) :: (vector nat parent.toList ++ compositeType t.composite)

def recGroup (g : RecGroup) : Bytes :=
  if g.isExplicit then 0x4e :: vector subType g.types else g.types.flatMap subType

def limits (l : Limits) : Bytes :=
  let flags := (if l.maximum.isSome then 1 else 0) + (if l.isShared then 2 else 0)
    + (if l.is64 then 4 else 0) + (if l.pageSizeLog2.isSome then 8 else 0)
  flags :: (nat l.minimum ++ (l.maximum.map nat).getD [] ++ (l.pageSizeLog2.map nat).getD [])

def tableType (t : TableType Nat) : Bytes := refType t.element ++ limits t.limits

def globalType (t : GlobalType Nat) : Bytes :=
  valType t.type ++ [flag t.isMutable + (if t.isShared then 2 else 0)]

def blockType : BlockType Nat → Bytes
  | .empty => [0x40]
  | .result type => valType type
  | .func type => Leb.signed type

def memArg (arg : MemArg Nat) : Bytes :=
  if arg.memory = 0 then nat arg.alignLog2 ++ nat arg.offset
  else nat (arg.alignLog2 + 0x40) ++ nat arg.memory ++ nat arg.offset

def catchClause (c : Catch Nat) : Bytes :=
  let kind : UInt8 := (if c.tag.isSome then 0 else 2) + flag c.withReference
  kind :: ((c.tag.map nat).getD [] ++ nat c.label)

def constant : NumType → Nat → Bytes
  | .i32, n => Leb.signed (Leb.toSigned 32 n)
  | .i64, n => Leb.signed (Leb.toSigned 64 n)
  | type, n => littleEndian (type.bits / 8) n

def castFlags (source target : RefType Nat) : UInt8 :=
  flag source.nullable + (if target.nullable then 2 else 0)

def immediate (o : Operation) : Immediate Nat → Bytes
  | .none => if o.op = .fence then [0] else []
  | .block type => blockType type
  | .tryTable type catches => blockType type ++ vector catchClause catches
  | .index i => nat i
  | .pair i j => nat i ++ nat j
  | .counted i n => nat i ++ nat n
  | .labels targets default => vector nat targets ++ nat default
  | .select types => vector valType types
  | .heap type => heapType type
  | .ref type => refType type
  | .cast label source target =>
      castFlags source target :: (nat label ++ heapType source.heap ++ heapType target.heap)
  | .access arg => memArg arg
  | .accessLane arg lane => memArg arg ++ [lane.toUInt8]
  | .bits n =>
      match o.shape with
      | .const type => constant type n
      | _ => []
  | .lanes ns => ns.map (·.toUInt8)

def operation (o : Operation) : Bytes :=
  match o.lead with
  | none => [o.code.toUInt8]
  | some lead => lead :: nat o.code

def instr (i : Instr Nat) : Bytes := operation i.operation ++ immediate i.operation i.immediate

/-- The code of a body or of a constant, closed by `end`. -/
def code (c : Code) : Bytes := c.flatMap instr ++ [0x0b]

/-- Neighbours of one type, counted. -/
def runs : List (ValType Nat) → List (Nat × ValType Nat)
  | [] => []
  | t :: rest =>
      match runs rest with
      | (n, u) :: more => if t = u then (n + 1, u) :: more else (1, t) :: (n, u) :: more
      | [] => [(1, t)]

def locals (types : List (ValType Nat)) : Bytes :=
  vector (fun (n, t) => nat n ++ valType t) (runs types)

def body (b : Body) : Bytes := sized (locals b.locals ++ code b.code)

def externType : ExternType Nat → Bytes
  | .func type => 0 :: nat type
  | .table type => 1 :: tableType type
  | .memory type => 2 :: limits type
  | .global type => 3 :: globalType type
  | .tag type => 4 :: 0 :: nat type

def imported (i : Import) : Bytes := string i.moduleName ++ string i.name ++ externType i.type

def table (t : Table) : Bytes :=
  match t.initial with
  | none => tableType t.type
  | some initial => 0x40 :: 0x00 :: (tableType t.type ++ code initial)

def global (g : Global) : Bytes := globalType g.type ++ code g.initial

def exported (e : Export) : Bytes := string e.name ++ (e.kind.code :: nat e.index)

/-- Items, after their kind or type where the mode asks for it. -/
def elemItems (withType : Bool) : ElemItems → Bytes
  | .functions indices => (if withType then [0x00] else []) ++ vector nat indices
  | .expressions type items => (if withType then refType type else []) ++ vector code items

/-- A table has to be named where the items are not of the usual type. -/
def namedTable (table : Option Nat) (items : ElemItems) : Option Nat :=
  match table, items with
  | none, .expressions type _ => if type = .func then none else some 0
  | table, _ => table

def elem (e : Elem) : Bytes :=
  let kind : UInt8 :=
    match e.items with
    | .functions _ => 0
    | .expressions _ _ => 4
  match e.mode with
  | .passive => (1 + kind) :: elemItems true e.items
  | .declared => (3 + kind) :: elemItems true e.items
  | .active table offset =>
      match namedTable table e.items with
      | none => kind :: (code offset ++ elemItems false e.items)
      | some table => (2 + kind) :: (nat table ++ code offset ++ elemItems true e.items)

def data (d : Data) : Bytes :=
  let bytes := sized d.bytes.toList
  match d.mode with
  | .passive => 1 :: bytes
  | .active 0 offset => 0 :: (code offset ++ bytes)
  | .active memory offset => 2 :: (nat memory ++ code offset ++ bytes)

/-- A part of a binary: its number, its size and its bytes. -/
def framed (id : UInt8) (payload : Bytes) : Bytes := id :: sized payload

def customSection (name : String) (payload : Bytes) : Bytes := framed 0 (string name ++ payload)

def nameMap (names : NameMap) : Bytes := vector (fun (i, name) => nat i ++ string name) names

def nestedMap (maps : List (Nat × NameMap)) : Bytes :=
  vector (fun (i, names) => nat i ++ nameMap names) maps

/-- A part of the name section; an empty one is left out. -/
def names (id : UInt8) (names : NameMap) : Bytes :=
  if names.isEmpty then [] else framed id (nameMap names)

def nestedNames (id : UInt8) (maps : List (Nat × NameMap)) : Bytes :=
  if maps.isEmpty then [] else framed id (nestedMap maps)

def keptNames (n : KeptNames) : Bytes :=
  ((n.module.map fun name => framed 0 (string name)).getD [])
    ++ names 1 n.funcs ++ nestedNames 2 n.locals ++ nestedNames 3 n.labels ++ names 4 n.types
    ++ names 5 n.tables ++ names 6 n.memories ++ names 7 n.globals ++ names 8 n.elems
    ++ names 9 n.datas ++ nestedNames 10 n.fields ++ names 11 n.tags

def nameSection (n : KeptNames) : Bytes :=
  let payload := keptNames n
  if payload.isEmpty then [] else customSection "name" payload

/-- Hints of a body: each with the place of its instruction in the body. -/
def bodyHints (b : Body) (hints : List (Nat × Nat)) : Bytes :=
  vector
    (fun (position, hint) =>
      let before := locals b.locals ++ (b.code.take position).flatMap instr
      nat before.length ++ [1, hint.toUInt8])
    hints

/-- Hints of the bodies; the functions before them are `imported` many. -/
def hintSection (imported : Nat) (bodies : List Body) (hints : List (List (Nat × Nat))) : Bytes :=
  let entries := ((bodies.zip hints).mapIdx fun i (b, hints) => (i, b, hints)).filter
    fun entry => !entry.2.2.isEmpty
  if entries.isEmpty then []
  else
    customSection "metadata.code.branch_hint"
      (vector (fun (i, b, hints) => nat (imported + i) ++ bodyHints b hints) entries)

def customsAt (customs : List CustomSection) (place : Text.Place) : Bytes :=
  (customs.filter (·.place = place)).flatMap fun c => customSection c.name c.bytes

/-- A section with the custom sections around it; one without items is left out. -/
def placed (customs : List CustomSection) (anchor : Text.Anchor) (bytes : Bytes) : Bytes :=
  customsAt customs (.before anchor) ++ bytes ++ customsAt customs (.after anchor)

def listSection (id : UInt8) (f : α → Bytes) (items : List α) : Bytes :=
  if items.isEmpty then [] else framed id (vector f items)

def needsDataCount (m : Module) : Bool :=
  m.bodies.any fun b => b.code.any fun i => i.op.needsDataCount

def header : Bytes := [0x00, 0x61, 0x73, 0x6d, 0x01, 0x00, 0x00, 0x00]

def sections (a : Annotated) : Bytes :=
  let m := a.module
  let placed := placed a.customs
  customsAt a.customs .first
    ++ placed .type (listSection 1 recGroup m.types)
    ++ placed .imports (listSection 2 imported m.imports)
    ++ placed .func (listSection 3 nat m.functions)
    ++ placed .table (listSection 4 table m.tables)
    ++ placed .memory (listSection 5 limits m.memories)
    ++ placed .tag (listSection 13 (fun type => 0x00 :: nat type) m.tags)
    ++ placed .global (listSection 6 global m.globals)
    ++ placed .exports (listSection 7 exported m.exports)
    ++ placed .start ((m.start.map fun i => framed 8 (nat i)).getD [])
    ++ placed .elem (listSection 9 elem m.elems)
    ++ (if needsDataCount m then framed 12 (nat m.datas.length) else [])
    ++ placed .code
      (hintSection (m.imported .func).length m.bodies a.hints ++ listSection 10 body m.bodies)
    ++ placed .data (listSection 11 data m.datas)
    ++ nameSection a.names
    ++ customsAt a.customs .last

def module (a : Annotated) : Bytes := header ++ sections a

def componentHeader : Bytes := [0x00, 0x61, 0x73, 0x6d, 0x0d, 0x00, 0x01, 0x00]

/-- Names of a component and of the modules in it. -/
def componentNames (name : Option String) (modules : NameMap) : Bytes :=
  let payload :=
    ((name.map fun name => framed 0 (string name)).getD [])
      ++ (if modules.isEmpty then [] else framed 1 (0x00 :: 0x11 :: nameMap modules))
  if payload.isEmpty then [] else customSection "component-name" payload

def component (name : Option String) (names : NameMap) (modules : List Bytes) : Bytes :=
  componentHeader ++ modules.flatMap (framed 1) ++ componentNames name names

end Rerun.Wasm.Encode
