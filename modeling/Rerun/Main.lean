import Rerun.Console
import Rerun.Wasm.Assembler
import Rerun.Wasm.Sandbox

/-! The program itself: files are read, texts are printed, and time passes. -/

namespace Rerun

/-- The system's number of a failure, which some calls tell as its negative. -/
def systemNumber (code : UInt32) : Nat := code.toInt32.toInt.natAbs

/-- What a failure to read means. -/
def ReadError.ofFailure : IO.Error → ReadError
  | .noFileOrDirectory .. => .missing
  | .inappropriateType _ code _ =>
      if systemNumber code = 20 then .notADirectory else .isDirectory
  | .permissionDenied .. => .denied
  | .invalidArgument _ code details | .resourceExhausted _ code details
  | .otherError code details =>
      ⟨.other (systemNumber code), s!"{details} (os error {systemNumber code})"⟩
  | e => ⟨.other 0, toString e⟩

def readFile (path : String) : IO (Except ReadError String) := do
  try
    let bytes ← IO.FS.readBinFile path
    match String.fromUTF8? bytes with
    | some text => return .ok text
    | none => return .error .notText
  catch e => return .error (.ofFailure e)

/-- Carries out a plan, file by file. -/
def Console.Plan.carryOut {α : Type} : Console.Plan α → IO α
  | .done result => return result
  | .read path next => do (next (← readFile path)).carryOut

/-- Looks at the file at every frame, and prints what is reported. -/
partial def watchFrom (setup : Setup ByteArray Wasm.EntryPoint)
    (order : CommandLine.Order) (reader : FileReader) (ticker : Ticker Wasm.EntryPoint) :
    IO Unit := do
  IO.sleep (UInt32.ofNat setup.settings.frameInterval)
  let (reading, _, reader) := reader.read (← readFile reader.path)
  let next := Ticker.frame setup ticker reading
  let fresh := next.session.delivered.drop ticker.session.delivered.length
  let out ← IO.getStdout
  out.putStr (Console.printedAll setup.settings order.json fresh)
  out.flush
  watchFrom setup order reader next

def runArguments (args : List String) : IO UInt32 := do
  match ← (Console.plan Wasm.assembler Wasm.sandbox args).carryOut with
  | .ended e =>
      (← IO.getStdout).putStr e.output
      (← IO.getStderr).putStr e.errors
      return e.status
  | .watching settings order =>
      watchFrom ⟨Wasm.assembler, Wasm.sandbox, settings⟩ order { path := order.file }
        (Ticker.start {})
      return 0

end Rerun

def main (args : List String) : IO UInt32 := Rerun.runArguments args
