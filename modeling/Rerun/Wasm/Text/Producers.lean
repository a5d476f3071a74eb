import Rerun.Wasm.Binary.Encode
import Rerun.Wasm.Text.Parse

/-! What a module was made with: languages, kits and tools, each with a version. -/

namespace Rerun.Wasm.Text

/-- Each with its version, in the order written. -/
structure Producers where
  languages : List (String × String) := []
  kits : List (String × String) := []
  tools : List (String × String) := []

namespace Producers

/-- The lists that are not empty, under their names. -/
def lists (p : Producers) : List (String × List (String × String)) :=
  [("language", p.languages), ("sdk", p.kits), ("processed-by", p.tools)].filter
    fun entry => !entry.2.isEmpty

def bytes (p : Producers) : List UInt8 :=
  Encode.vector
    (fun (name, values) =>
      Encode.string name
        ++ Encode.vector (fun (tool, version) => Encode.string tool ++ Encode.string version) values)
    p.lists

end Producers

namespace Parse

def versioned : Parse (String × String) := do
  let tool ← text
  return (tool, ← text)

def producer (p : Producers) : Parse Producers := parens do
  match ← keyword? with
  | some "language" => skip; return { p with languages := p.languages ++ [← versioned] }
  | some "sdk" => skip; return { p with kits := p.kits ++ [← versioned] }
  | some "processed-by" => skip; return { p with tools := p.tools ++ [← versioned] }
  | _ => unexpected (["language", "sdk", "processed-by"].map quoted)

def producersFrom : Nat → Producers → Parse Producers
  | 0, p => return p
  | fuel + 1, p => do
      if ← atEnd then return p else producersFrom fuel (← producer p)

def producers : Parse Producers := fun tokens => producersFrom (tokens.length + 1) {} tokens

end Parse

end Rerun.Wasm.Text
