import Std.Data.HashMap
import Rerun.Wasm.Operation.Vector

/-! The whole instruction set, looked up by mnemonic and by code. -/

namespace Rerun.Wasm.Operation

/-- Rows of accesses of every size, for each of the words `heads`. -/
def atomicUpdates (code : Nat) (name : String) (f : Width → Nat → Atomic) : List Operation :=
  let rows : List (String × Atomic) :=
    [ ("i32.atomic.rmw." ++ name, f .w32 32), ("i64.atomic.rmw." ++ name, f .w64 64),
      ("i32.atomic.rmw8." ++ name ++ "_u", f .w32 8),
      ("i32.atomic.rmw16." ++ name ++ "_u", f .w32 16),
      ("i64.atomic.rmw8." ++ name ++ "_u", f .w64 8),
      ("i64.atomic.rmw16." ++ name ++ "_u", f .w64 16),
      ("i64.atomic.rmw32." ++ name ++ "_u", f .w64 32) ]
  rows.mapIdx fun i (name, a) => led 0xfe name (code + i) (.atomic a)

def atomicAccesses : List Operation :=
  let rows : List (String × Atomic) :=
    [ ("i32.atomic.load", .load .w32 32), ("i64.atomic.load", .load .w64 64),
      ("i32.atomic.load8_u", .load .w32 8), ("i32.atomic.load16_u", .load .w32 16),
      ("i64.atomic.load8_u", .load .w64 8), ("i64.atomic.load16_u", .load .w64 16),
      ("i64.atomic.load32_u", .load .w64 32),
      ("i32.atomic.store", .store .w32 32), ("i64.atomic.store", .store .w64 64),
      ("i32.atomic.store8", .store .w32 8), ("i32.atomic.store16", .store .w32 16),
      ("i64.atomic.store8", .store .w64 8), ("i64.atomic.store16", .store .w64 16),
      ("i64.atomic.store32", .store .w64 32) ]
  rows.mapIdx fun i (name, a) => led 0xfe name (0x10 + i) (.atomic a)

/-- Rows after the byte 0xfe. -/
def atomics : List Operation :=
  [ led 0xfe "memory.atomic.notify" 0 (.atomic .notify),
    led 0xfe "memory.atomic.wait32" 1 (.atomic (.wait .w32)),
    led 0xfe "memory.atomic.wait64" 2 (.atomic (.wait .w64)), led 0xfe "atomic.fence" 3 .fence ]
    ++ atomicAccesses
    ++ atomicUpdates 0x1e "add" (.update · · .add) ++ atomicUpdates 0x25 "sub" (.update · · .sub)
    ++ atomicUpdates 0x2c "and" (.update · · .and) ++ atomicUpdates 0x33 "or" (.update · · .or)
    ++ atomicUpdates 0x3a "xor" (.update · · .xor)
    ++ atomicUpdates 0x41 "xchg" (.update · · .exchange)
    ++ atomicUpdates 0x48 "cmpxchg" .compareExchange

def all : List Operation := core ++ vector ++ atomics

/-- Of two rows with one mnemonic the first counts. -/
def byName : Std.HashMap String Operation :=
  all.foldl (fun map o => map.insertIfNew o.name o) ∅

def ofName? (name : String) : Option Operation := byName[name]?

def ofCode? (lead : Option UInt8) (code : Nat) : Option Operation :=
  all.find? fun o => o.lead == lead && o.code == code

/-- The row with the next code, where it has the same mnemonic. -/
def sibling? (o : Operation) : Option Operation :=
  (ofCode? o.lead (o.code + 1)).filter (·.name == o.name)

end Rerun.Wasm.Operation
