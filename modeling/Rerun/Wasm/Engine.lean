import Rerun.Wasm.Instance
import Rerun.Wasm.Text.Assemble
import Rerun.Wasm.Text.Excerpt
import Rerun.Wasm.Validation.Module

/-! Loading: the module that bytes stand for.  Bytes that do not begin like a binary are
taken for a text. -/

namespace Rerun.Wasm

/-- The engine knows none of the features that not everybody knows. -/
def engineKnows (_ : Feature) : Bool := false

inductive LoadError
  | notUnicode
  | text (fault : Text.TextFault) (source : String)
  | component
  | invalid (fault : Fault)

namespace LoadError

def message : LoadError → String
  | notUnicode => "input bytes aren't valid utf-8"
  | text fault source => fault.excerpt source
  | component =>
      "failed to parse WebAssembly module: expected a WebAssembly module but was given a WebAssembly component"
  | invalid fault =>
      if fault.inBody then
        s!"WebAssembly translation error: Invalid input WebAssembly code at offset {fault.offset}: {fault.message}"
      else
        s!"failed to parse WebAssembly module: {fault.message} (at offset 0x{Digits.hex fault.offset})"

end LoadError

def beginsLikeBinary (bytes : ByteArray) : Bool := bytes.toList.take 4 == Check.magic

def isComponent (binary : ByteArray) : Bool :=
  match ((Check.header.run binary).run.run { position := 0, stop := binary.size }).1 with
  | .ok .component => true
  | _ => false

def loadBinary (binary : ByteArray) : Except LoadError Module :=
  if isComponent binary then .error .component
  else
    match (Verdict.ofBinary binary).judge engineKnows with
    | .error fault => .error (.invalid fault)
    | .ok (_, m :: _) => .ok m
    | .ok (_, []) => .error .component

/-- A loader: how it encodes a text, and the module that it compiles from a binary. -/
structure Loader where
  encode : String → Except Text.TextFault ByteArray
  compile : ByteArray → Except LoadError Module

namespace Loader

/-- The binary that is meant, after encoding a text. -/
def binaryOf (l : Loader) (bytes : ByteArray) : Except LoadError ByteArray :=
  if beginsLikeBinary bytes then .ok bytes
  else
    match String.fromUTF8? bytes with
    | none => .error .notUnicode
    | some source =>
        match l.encode source with
        | .ok binary => .ok binary
        | .error fault => .error (.text fault source)

def load (l : Loader) (bytes : ByteArray) : Except LoadError Module := do
  l.compile (← l.binaryOf bytes)

end Loader

/-- The loader of the engine at hand. -/
def engine : Loader := ⟨Text.assemble, loadBinary⟩

def load (bytes : ByteArray) : Except LoadError Module := engine.load bytes

end Rerun.Wasm
