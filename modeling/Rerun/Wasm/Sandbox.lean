import Rerun.Stages
import Rerun.Wasm.Engine

/-! The sandbox of WebAssembly: what bytes give when their `main` is called. -/

namespace Rerun.Wasm

/-- A loaded module with the function that is to be called. -/
structure EntryPoint where
  «instance» : Instance
  function : Function

/-- The export that is called. -/
def entryName : String := "main"

inductive EntryError
  | missing
  | notFunction

def EntryError.message : EntryError → String
  | missing => s!"module does not export a `{entryName}` function"
  | notFunction => s!"export `{entryName}` is not a function"

def EntryPoint.ofInstance (i : Instance) : Except EntryError EntryPoint :=
  match i.exports.find? (·.name == entryName) with
  | none => .error .missing
  | some e =>
      if e.kind = .func then
        match i.program.functions[e.index]? with
        | some f => .ok ⟨i, f⟩
        | none => .error .missing
      else .error .notFunction

/-- A module up to a callable `main`; what fails first is told. -/
def Module.enter (m : Module) : Except Diagnostic EntryPoint :=
  match Instance.ofModule m with
  | .error e => .error (.plain e.message)
  | .ok i =>
      match EntryPoint.ofInstance i with
      | .error e => .error (.plain e.message)
      | .ok entry => .ok entry

def Loader.enter (l : Loader) (bytes : ByteArray) : Except Diagnostic EntryPoint :=
  match l.load bytes with
  | .error e => .error (.plain e.message)
  | .ok m => m.enter

/-- Bytes up to a callable `main`. -/
def enter (bytes : ByteArray) : Except Diagnostic EntryPoint := engine.enter bytes

/-- What a reference that is there is called.  Types are told apart by their hierarchies; the
engine knows no reference to a type that a module defines. -/
def referenceWord (type : RefType Nat) : String :=
  match type.heap with
  | .abstract heap =>
      match heap.bottom with
      | .noFunc => "funcref"
      | .noForeign => "externref"
      | _ => "anyref"
  | .concrete _ => "anyref"

/-- The value that bits mean. -/
def valueOf (type : ValType Nat) (bits : Nat) : Value :=
  match type with
  | .i32 => .i32 (Int32.ofNat bits)
  | .i64 => .i64 (Int64.ofNat bits)
  | .f32 => .f32 bits.toUInt32
  | .f64 => .f64 bits.toUInt64
  | .v128 => .v128 (BitVec.ofNat 128 bits)
  | .ref type => .reference (if bits = 0 then "null" else referenceWord type)

/-- One value for each type. -/
def valuesOf (types : List (ValType Nat)) (bits : List Nat) : List Value :=
  types.zipIdx.map fun (type, i) => valueOf type ((bits[i]?).getD 0)

/-- One value stands for itself. -/
def gathered : List Value → Value
  | [] => .void
  | [v] => v
  | vs => .multiple vs

def callEntry (entry : EntryPoint) : Except Diagnostic Value :=
  let type := entry.function.type
  if type.params.isEmpty then
    match Machine.call entry.instance.program entry.instance.store entry.function with
    | .error t => .error (.plain t.message)
    | .ok (bits, _) => .ok (gathered (valuesOf type.results bits))
  else .error (.plain s!"expected {type.params.length} arguments, got 0")

/-- Neither step pauses. -/
def Loader.sandbox (l : Loader) : Sandbox EntryPoint where
  instantiate bytes := .done (l.enter bytes)
  callMain entry := .done (callEntry entry)

def sandbox : Sandbox EntryPoint := engine.sandbox

end Rerun.Wasm
