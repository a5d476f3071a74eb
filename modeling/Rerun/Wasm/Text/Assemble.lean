import Rerun.Wasm.Binary.Encode
import Rerun.Wasm.Text.Field
import Rerun.Wasm.Text.Numbering

/-! From a text to the binary it stands for. -/

namespace Rerun.Wasm.Text

def ModuleText.encode (m : ModuleText) : Except TextFault (List UInt8) :=
  match m.body with
  | .binary bytes => .ok bytes
  | .fields fields => return Encode.module (← numberFields m.naming fields)

def Script.encode : Script → Except TextFault (List UInt8)
  | .module m => m.encode
  | .component naming modules => do
      let names := KeptNames.numbered (modules.map (·.naming))
      return Encode.component naming.kept names (← modules.mapM ModuleText.encode)
  | .componentBinary bytes => .ok bytes

/-- The binary of a text, or the first fault of the text. -/
def assemble (source : String) : Except TextFault ByteArray := do
  let bytes ← (← Parse.script source).encode
  return ⟨bytes.toArray⟩

end Rerun.Wasm.Text
