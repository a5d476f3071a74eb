import Std.Data.HashMap
import Rerun.Wasm.Trap
import Rerun.Wasm.Type

/-! Memories and tables.  Both are sparse: a byte that was never written is zero, an
entry that was never set is null. -/

namespace Rerun.Wasm

structure Memory where
  pages : Nat
  /-- Pages that it may grow to. -/
  limit : Nat
  isShared : Bool
  /-- Written parts, by their number. -/
  chunks : Std.HashMap Nat ByteArray

namespace Memory

def pageSize : Nat := 65536

def chunkSize : Nat := 1024

def emptyChunk : ByteArray := ⟨Array.replicate chunkSize 0⟩

/-- Most pages that an address of 32 bits reaches. -/
def maxPages : Nat := 65536

def ofLimits (l : Limits) : Memory :=
  ⟨l.minimum, min maxPages (l.maximum.getD maxPages), l.isShared, ∅⟩

def size (m : Memory) : Nat := m.pages * pageSize

def byte (m : Memory) (i : Nat) : UInt8 :=
  match m.chunks[i / chunkSize]? with
  | some chunk => chunk.get! (i % chunkSize)
  | none => 0

def setByte (m : Memory) (i : Nat) (b : UInt8) : Memory :=
  let chunk := i / chunkSize
  let chunks := m.chunks.insertIfNew chunk emptyChunk
  { m with chunks := chunks.modify chunk fun bytes => bytes.set! (i % chunkSize) b }

def readFrom (m : Memory) (start : Nat) : Nat → Nat
  | 0 => 0
  | n + 1 => (m.byte start).toNat + 256 * readFrom m (start + 1) n

/-- Writes the lowest `n` bytes of a number, the lowest first. -/
def writeFrom (m : Memory) (start value : Nat) : Nat → Memory
  | 0 => m
  | n + 1 => writeFrom (m.setByte start (UInt8.ofNat value)) (start + 1) (value / 256) n

/-- So many bytes from an address on lie inside. -/
def inside (m : Memory) (start count : Nat) : Except Trap Unit :=
  if start + count ≤ m.size then .ok () else .error .memoryAccess

def read (m : Memory) (start count : Nat) : Except Trap Nat := do
  m.inside start count
  return m.readFrom start count

def write (m : Memory) (start count value : Nat) : Except Trap Memory := do
  m.inside start count
  return m.writeFrom start value count

def fillFrom (m : Memory) (start : Nat) (b : UInt8) : Nat → Memory
  | 0 => m
  | n + 1 => fillFrom (m.setByte start b) (start + 1) b n

def fill (m : Memory) (start count : Nat) (b : UInt8) : Except Trap Memory := do
  m.inside start count
  return m.fillFrom start b count

def putFrom (m : Memory) (start : Nat) : List UInt8 → Memory
  | [] => m
  | b :: rest => putFrom (m.setByte start b) (start + 1) rest

def bytesFrom (m : Memory) (start count : Nat) : List UInt8 :=
  (List.range count).map fun i => m.byte (start + i)

/-- Copies as if all was read before anything is written. -/
def copy (m held : Memory) (target source count : Nat) : Except Trap Memory := do
  held.inside source count
  m.inside target count
  return m.putFrom target (held.bytesFrom source count)

/-- Copies a part of a segment. -/
def init (m : Memory) (segment : ByteArray) (target source count : Nat) :
    Except Trap Memory := do
  if segment.size < source + count then throw .memoryAccess
  m.inside target count
  return m.putFrom target (segment.extract source (source + count)).toList

/-- The size before, where there is room for so many pages more. -/
def grow (m : Memory) (delta : Nat) : Option (Nat × Memory) :=
  if m.pages + delta ≤ m.limit then some (m.pages, { m with pages := m.pages + delta })
  else none

end Memory

/-- A reference: null is zero, a function comes after by its index. -/
abbrev Reference := Nat

structure RefTable where
  size : Nat
  limit : Nat
  /-- Entries that are not null. -/
  entries : Std.HashMap Nat Reference

namespace RefTable

/-- Most entries that an index of 32 bits reaches. -/
def maxSize : Nat := Nat.pow 2 32 - 1

def ofLimits (l : Limits) : RefTable := ⟨l.minimum, min maxSize (l.maximum.getD maxSize), ∅⟩

def inside (t : RefTable) (start count : Nat) : Except Trap Unit :=
  if start + count ≤ t.size then .ok () else .error .tableAccess

def entry (t : RefTable) (i : Nat) : Reference := (t.entries[i]?).getD 0

def setEntry (t : RefTable) (i : Nat) (r : Reference) : RefTable :=
  { t with entries := if r = 0 then t.entries.erase i else t.entries.insert i r }

def get (t : RefTable) (i : Nat) : Except Trap Reference := do
  t.inside i 1
  return t.entry i

def putFrom (t : RefTable) (start : Nat) : List Reference → RefTable
  | [] => t
  | r :: rest => putFrom (t.setEntry start r) (start + 1) rest

def put (t : RefTable) (start : Nat) (rs : List Reference) : Except Trap RefTable := do
  t.inside start rs.length
  return t.putFrom start rs

def fillFrom (t : RefTable) (start : Nat) (r : Reference) : Nat → RefTable
  | 0 => t
  | n + 1 => fillFrom (t.setEntry start r) (start + 1) r n

def fill (t : RefTable) (start count : Nat) (r : Reference) : Except Trap RefTable := do
  t.inside start count
  return t.fillFrom start r count

/-- Copies as if all was read before anything is written. -/
def copy (t held : RefTable) (target source count : Nat) : Except Trap RefTable := do
  held.inside source count
  t.put target ((List.range count).map fun i => held.entry (source + i))

def init (t : RefTable) (segment : List Reference) (target source count : Nat) :
    Except Trap RefTable := do
  if segment.length < source + count then throw .tableAccess
  t.put target ((segment.drop source).take count)

/-- New entries hold the reference. -/
def grow (t : RefTable) (delta : Nat) (r : Reference) : Option (Nat × RefTable) :=
  if t.size + delta ≤ t.limit then
    let larger := { t with size := t.size + delta }
    some (t.size, if r = 0 then larger else larger.fillFrom t.size r delta)
  else none

end RefTable

end Rerun.Wasm
