import Rerun.Wasm.Module

/-! A module as it is written: names beside numbers, definitions in any order,
imports and exports inside definitions. -/

namespace Rerun.Wasm.Text

structure Name where
  text : String
  offset : Nat
deriving DecidableEq, Repr

/-- A reference by name or by number, and where it stands. -/
inductive Index
  | number (n : Nat) (offset : Nat)
  | name (name : Name)
deriving DecidableEq, Repr

namespace Index

def offset : Index → Nat
  | number _ offset => offset
  | name n => n.offset

end Index

/-- The identifier of a definition and the name it is shown under. -/
structure Naming where
  id : Option Name := none
  display : Option String := none
deriving DecidableEq, Repr

namespace Naming

/-- The name that is kept in the binary. -/
def kept (n : Naming) : Option String := n.display <|> n.id.map (·.text)

end Naming

/-- A parameter or a local. -/
structure Local where
  naming : Naming
  type : ValType Index
deriving DecidableEq, Repr

structure Signature where
  params : List Local
  results : List (ValType Index)
deriving DecidableEq, Repr

namespace Signature

def toFunc (s : Signature) : FuncType Index := ⟨s.params.map (·.type), s.results⟩

end Signature

/-- A function type by reference, written out, or both. -/
structure TypeUse where
  index : Option Index
  written : Option Signature
deriving DecidableEq, Repr

/-- An instruction with its label, or the label that `else` and `end` repeat. -/
structure TextInstr where
  operation : Operation
  naming : Naming := {}
  use : Option TypeUse := none
  immediate : Immediate Index := .none
  /-- Whether the branch is said to be likely. -/
  hint : Option Nat := none
deriving DecidableEq, Repr

abbrev Expression := List TextInstr

structure TypeDef where
  naming : Naming
  type : SubType Index
  /-- Of a structure. -/
  fieldNames : List (Option Name) := []

structure Origin where
  moduleName : String
  name : String
deriving DecidableEq, Repr

inductive FuncBody
  | imported (origin : Origin)
  | defined (locals : List Local) (code : Expression)

inductive ElemPayload
  | functions (indices : List Index)
  | expressions (type : RefType Index) (items : List Expression)

inductive TableBody
  | imported (origin : Origin) (type : TableType Index)
  | defined (type : TableType Index) (initial : Option Expression)
  | filled (is64 isShared : Bool) (element : RefType Index) (payload : ElemPayload)

inductive MemoryBody
  | imported (origin : Origin) (type : Limits)
  | defined (type : Limits)
  | filled (is64 : Bool) (pageSizeLog2 : Option Nat) (bytes : List UInt8)

inductive GlobalBody
  | imported (origin : Origin)
  | defined (initial : Expression)

inductive SegmentMode
  | passive
  | declared
  | active (target : Option Index) (offset : Expression)

/-- The section beside which a custom section is placed. -/
inductive Anchor
  | type | imports | func | table | memory | global | exports | start | elem | code | data | tag
deriving DecidableEq, Repr

inductive Place
  | first
  | before (anchor : Anchor)
  | after (anchor : Anchor)
  | last
deriving DecidableEq, Repr

structure ImportField where
  offset : Nat
  origin : Origin
  naming : Naming
  type : ExternType Index
  /-- The type use of a function or a tag. -/
  use : Option TypeUse

inductive Field
  | types (isExplicit : Bool) (defs : List TypeDef)
  | imported (field : ImportField)
  | func (offset : Nat) (naming : Naming) (exports : List String) (use : TypeUse)
      (body : FuncBody)
  | table (offset : Nat) (naming : Naming) (exports : List String) (body : TableBody)
  | memory (offset : Nat) (naming : Naming) (exports : List String) (body : MemoryBody)
  | global (offset : Nat) (naming : Naming) (exports : List String)
      (type : GlobalType Index) (body : GlobalBody)
  | tag (offset : Nat) (naming : Naming) (exports : List String) (use : TypeUse)
      (origin : Option Origin)
  | exported (name : String) (kind : ExternKind) (index : Index)
  | start (index : Index)
  | elem (naming : Naming) (mode : SegmentMode) (payload : ElemPayload)
  | data (naming : Naming) (mode : SegmentMode) (bytes : List UInt8)
  | custom (name : String) (place : Place) (bytes : List UInt8)

inductive ModuleBody
  | fields (fields : List Field)
  | binary (bytes : List UInt8)

structure ModuleText where
  naming : Naming
  body : ModuleBody

/-- A text holds a module, or a component, made of core modules or given by its bytes. -/
inductive Script
  | module (module : ModuleText)
  | component (naming : Naming) (modules : List ModuleText)
  | componentBinary (bytes : List UInt8)

end Rerun.Wasm.Text
