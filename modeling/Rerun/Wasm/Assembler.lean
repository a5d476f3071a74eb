import Rerun.Stages
import Rerun.Wasm.Text.Assemble
import Rerun.Wasm.Validation.Module

/-! The assembler of WebAssembly texts: the binary of a text, validated where that is
asked for. -/

namespace Rerun.Wasm

/-- Features that the assembler knows. -/
def assemblerKnows : Feature → Bool
  | .memory64 | .exceptions | .functionReferences | .gc => true
  | .legacyExceptions | .wideArithmetic | .customPageSizes | .sharedEverything => false

def Fault.inBinary (f : Fault) : Diagnostic :=
  .plain s!"{f.message} (at binary offset 0x{Digits.hex f.offset})"

def Text.TextFault.within (f : Text.TextFault) (text : String) : Diagnostic :=
  .located f.message text f.offset

/-- The tools that a text goes through.  It is encoded, and its binary may be checked for who
knows some of the features. -/
structure Toolchain where
  encode : String → Except Text.TextFault ByteArray
  check : (Feature → Bool) → ByteArray → Except Fault Unit

namespace Toolchain

/-- Refuses a binary that is not valid. -/
def validated (tools : Toolchain) (binary : ByteArray) : Except Diagnostic ByteArray :=
  match tools.check assemblerKnows binary with
  | .ok () => .ok binary
  | .error fault => .error fault.inBinary

def assembleText (tools : Toolchain) (text : String) (options : ParseOptions) :
    Except Diagnostic ByteArray :=
  match tools.encode text with
  | .error fault => .error (fault.within text)
  | .ok binary => if options.validate then tools.validated binary else .ok binary

/-- The handle of a module is its binary. -/
def assembler (tools : Toolchain) : Assembler ByteArray where
  parse _ text options := tools.assembleText text options
  encode binary := .ok binary

end Toolchain

/-- The tools at hand. -/
def toolchain : Toolchain where
  encode := Text.assemble
  check has binary := ((Verdict.ofBinary binary).judge has).map fun _ => ()

def assembler : Assembler ByteArray := toolchain.assembler

def parsingRecord (name text : String) : LogRecord :=
  ⟨.trace, s!"Parsing module '{name}' ({text.utf8ByteSize} bytes)"⟩

def releaseRecord (binary : ByteArray) : LogRecord :=
  ⟨.trace, s!"Released module handle ({binary.size} bytes)"⟩

/-- What is written down while a text goes through the assembler. -/
def assemblyLog (name text : String) (result : Except Diagnostic ByteArray) :
    List LogRecord :=
  match result with
  | .ok binary => [parsingRecord name text, releaseRecord binary]
  | .error _ => [parsingRecord name text]

end Rerun.Wasm
