import Rerun.Wasm.Module
import Rerun.Wasm.Text.Script

/-! A numbered module together with what its binary form holds beside it: the names
of the text, sections without a meaning of their own, and branch hints. -/

namespace Rerun.Wasm

abbrev NameMap := List (Nat × String)

/-- Names of a module and of what is in it. -/
structure KeptNames where
  module : Option String := none
  funcs : NameMap := []
  /-- By function. -/
  locals : List (Nat × NameMap) := []
  labels : List (Nat × NameMap) := []
  types : NameMap := []
  tables : NameMap := []
  memories : NameMap := []
  globals : NameMap := []
  elems : NameMap := []
  datas : NameMap := []
  /-- By structure type. -/
  fields : List (Nat × NameMap) := []
  tags : NameMap := []

structure CustomSection where
  place : Text.Place
  name : String
  bytes : List UInt8

structure Annotated where
  module : Module
  names : KeptNames := {}
  customs : List CustomSection := []
  /-- For each body the instructions that carry a hint, by position. -/
  hints : List (List (Nat × Nat)) := []

end Rerun.Wasm
