import Rerun.Log
import Rerun.Outcome
import Rerun.Settings

/-! The two parties a session works with: an assembler, which turns a text into a
binary by way of a handle, and a sandbox, which runs a binary and may pause. -/

namespace Rerun

/-- A computation that pauses any number of times before it gives its result. -/
inductive Pausing (α : Type)
  | done (result : α)
  | paused (next : Pausing α)

/-- The result, every pause gone through. -/
def Pausing.result {α : Type} : Pausing α → α
  | done result => result
  | paused next => next.result

/-- The pauses still to come. -/
def Pausing.pauses {α : Type} : Pausing α → Nat
  | done _ => 0
  | paused next => next.pauses + 1

structure Assembler (Handle : Type) where
  /-- Module name, text and options. -/
  parse : String → String → ParseOptions → Except Diagnostic Handle
  encode : Handle → Except Diagnostic ByteArray

structure Sandbox (Instance : Type) where
  /-- A binary without a callable `main` is refused here. -/
  instantiate : ByteArray → Pausing (Except Diagnostic Instance)
  callMain : Instance → Pausing (Except Diagnostic Value)

/-- A call on either party.  Handles are numbered in the order of creation. -/
inductive Call
  | parse (name text : String) (options : ParseOptions) (handle : Option Nat)
  | encode (handle : Nat)
  | destroy (handle : Nat)
  | instantiate (cycle : CycleId) (binary : ByteArray)
  | callMain (cycle : CycleId)

namespace Call

def isCreation : Call → Bool
  | parse _ _ _ (some _) => true
  | _ => false

def isDestruction : Call → Bool
  | destroy _ => true
  | _ => false

def isMain : Call → Bool
  | callMain _ => true
  | _ => false

end Call

/-- A binary, or why there is none, with the calls made and the records written. -/
structure Assembly where
  binary : Except Diagnostic ByteArray
  calls : List Call
  log : List LogRecord

/-- Every handle is destroyed once, right after it was encoded; `serial` is the
number of the handle that may be created. -/
def Assembler.assemble {Handle : Type} (assembler : Assembler Handle)
    (settings : Settings) (serial : Nat) (text : String) : Assembly :=
  let options := settings.parseOptions
  let parse := Call.parse settings.moduleName text options
  match assembler.parse settings.moduleName text options with
  | .error d => ⟨.error d, [parse none], []⟩
  | .ok handle =>
      let calls := [parse (some serial), .encode serial, .destroy serial]
      match assembler.encode handle with
      | .error d => ⟨.error d, calls, []⟩
      | .ok binary =>
          let log :=
            s!"Assembled {text.utf8ByteSize} bytes of source into {binary.size} bytes"
          ⟨.ok binary, calls, [⟨.debug, log⟩]⟩

/-- The outcome of a binary in a sandbox, every pause gone through. -/
structure Execution where
  outcome : Outcome
  calls : List Call
  log : List LogRecord

def instantiatedText (size : Nat) : String :=
  s!"Instantiated {size} byte module, calling `main`"

def Sandbox.run {Instance : Type} (sandbox : Sandbox Instance) (id : CycleId)
    (binary : ByteArray) : Execution :=
  match (sandbox.instantiate binary).result with
  | .error d => ⟨.error ⟨.instantiation, d⟩, [.instantiate id binary], []⟩
  | .ok program =>
      let outcome :=
        match (sandbox.callMain program).result with
        | .error d => .error ⟨.runtime, d⟩
        | .ok value => .ok value
      ⟨outcome, [.instantiate id binary, .callMain id],
        [⟨.debug, instantiatedText binary.size⟩]⟩

/-- The outcome of a text without a session: assemble, instantiate, call `main`. -/
def reference {Handle Instance : Type} (assembler : Assembler Handle)
    (sandbox : Sandbox Instance) (settings : Settings) (text : String) : Outcome :=
  match (assembler.assemble settings 0 text).binary with
  | .error d => .error ⟨.assembly, d⟩
  | .ok binary => (sandbox.run 0 binary).outcome

end Rerun
