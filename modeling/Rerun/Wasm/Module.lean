import Rerun.Wasm.Instr

/-! A module as a binary has it: everything is referred to by number. -/

namespace Rerun.Wasm

inductive ExternKind
  | func | table | memory | global | tag
deriving DecidableEq, Repr

namespace ExternKind

def name : ExternKind → String
  | func => "func"
  | table => "table"
  | memory => "memory"
  | global => "global"
  | tag => "tag"

def code : ExternKind → UInt8
  | func => 0
  | table => 1
  | memory => 2
  | global => 3
  | tag => 4

def all : List ExternKind := [func, table, memory, global, tag]

def ofName? (name : String) : Option ExternKind := all.find? (·.name == name)

def ofCode? (code : UInt8) : Option ExternKind := all.find? (·.code == code)

end ExternKind

/-- What an import brings in; functions and tags are given by their type. -/
inductive ExternType (ι : Type)
  | func (type : ι)
  | table (type : TableType ι)
  | memory (type : Limits)
  | global (type : GlobalType ι)
  | tag (type : ι)
deriving DecidableEq, Repr

namespace ExternType

def kind {ι : Type} : ExternType ι → ExternKind
  | func _ => .func
  | table _ => .table
  | memory _ => .memory
  | global _ => .global
  | tag _ => .tag

end ExternType

abbrev Code := List (Instr Nat)

structure Import where
  moduleName : String
  name : String
  type : ExternType Nat

structure Table where
  type : TableType Nat
  initial : Option Code

structure Global where
  type : GlobalType Nat
  initial : Code

structure Export where
  name : String
  kind : ExternKind
  index : Nat
deriving DecidableEq, Repr

inductive ElemMode
  | passive
  /-- Without a table, the first one is meant. -/
  | active (table : Option Nat) (offset : Code)
  | declared

inductive ElemItems
  | functions (indices : List Nat)
  | expressions (type : RefType Nat) (items : List Code)

structure Elem where
  mode : ElemMode
  items : ElemItems

inductive DataMode
  | passive
  | active (memory : Nat) (offset : Code)

structure Data where
  mode : DataMode
  bytes : ByteArray

structure Body where
  locals : List (ValType Nat)
  code : Code

/-- Types defined together; `isExplicit` where that is written even for one. -/
structure RecGroup where
  isExplicit : Bool
  types : List (SubType Nat)

structure Module where
  types : List RecGroup := []
  imports : List Import := []
  /-- Type of each function that is defined here. -/
  functions : List Nat := []
  tables : List Table := []
  memories : List Limits := []
  tags : List Nat := []
  globals : List Global := []
  exports : List Export := []
  start : Option Nat := none
  elems : List Elem := []
  datas : List Data := []
  bodies : List Body := []

namespace Module

def imported (m : Module) (kind : ExternKind) : List (ExternType Nat) :=
  (m.imports.map (·.type)).filter (·.kind == kind)

end Module

end Rerun.Wasm
