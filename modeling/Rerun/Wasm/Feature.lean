/-! Features of WebAssembly that not every party knows. -/

namespace Rerun.Wasm

inductive Feature
  | memory64
  | exceptions
  | functionReferences
  | gc
  | legacyExceptions
  | wideArithmetic
  | customPageSizes
  | sharedEverything
deriving DecidableEq, Repr

namespace Feature

/-- What a message calls the operations that a feature brings. -/
def operations : Feature → String
  | memory64 => "memory64"
  | exceptions => "exceptions"
  | functionReferences => "function references"
  | gc => "gc"
  | legacyExceptions => "legacy exceptions"
  | wideArithmetic => "wide arithmetic"
  | customPageSizes => "custom page sizes"
  | sharedEverything => "shared-everything-threads"

end Feature

end Rerun.Wasm
