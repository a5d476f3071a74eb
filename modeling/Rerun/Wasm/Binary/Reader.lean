import Rerun.Text.Digits
import Rerun.Wasm.Feature

/-! Reading a binary.  A run stops at its first fault; what it would have been refused
for by a party that lacks a feature is noted on the way. -/

namespace Rerun.Wasm

/-- A fault and the byte it is reported at. -/
structure Fault where
  offset : Nat
  message : String
  /-- Whether it lies in the body of a function. -/
  inBody : Bool
deriving DecidableEq, Repr

/-- A fault for those who lack the feature. -/
structure Demand where
  feature : Feature
  fault : Fault
deriving DecidableEq, Repr

structure Cursor where
  position : Nat
  /-- Where the part that is being read ends. -/
  stop : Nat
  inBody : Bool := false
  /-- The latest first. -/
  demands : List Demand := []

abbrev Read := ReaderT ByteArray (ExceptT Fault (StateM Cursor))

namespace Read

variable {α : Type}

def position : Read Nat := return (← get).position

def failAt (offset : Nat) (message : String) : Read α := do
  throw ⟨offset, message, (← get).inBody⟩

def fail (message : String) : Read α := do failAt (← position) message

/-- Fails at the byte before. -/
def failBefore (message : String) : Read α := do failAt ((← position) - 1) message

def require (holds : Bool) (offset : Nat) (message : String) : Read Unit :=
  if holds then return () else failAt offset message

def demand (feature : Feature) (offset : Nat) (message : String) : Read Unit :=
  modify fun c => { c with demands := ⟨feature, offset, message, c.inBody⟩ :: c.demands }

def remaining : Read Nat := return (← get).stop - (← get).position

def atEnd : Read Bool := return (← remaining) == 0

def endOfFile : String := "unexpected end-of-file"

def byteAt (offset : Nat) : Read UInt8 := return (← read).get! offset

def peek : Read UInt8 := do
  if ← atEnd then fail endOfFile else byteAt (← position)

def u8 : Read UInt8 := do
  let b ← peek
  modify fun c => { c with position := c.position + 1 }
  return b

/-- So many bytes that must be there. -/
def bytes (n : Nat) : Read ByteArray := do
  if (← remaining) < n then fail endOfFile
  else
    let start ← position
    modify fun c => { c with position := start + n }
    return (← read).extract start (start + n)

/-- Reads a part of so many bytes, which must be there, and goes on after it. -/
def within (size : Nat) (p : Read α) : Read α := do
  if (← remaining) < size then fail endOfFile
  else
    let before ← get
    set { before with stop := before.position + size }
    let a ← p
    modify fun c => { c with position := before.position + size, stop := before.stop }
    return a

def tooLong (name : String) (continues : Bool) : String :=
  if continues then s!"invalid {name}: integer representation too long"
  else s!"invalid {name}: integer too large"

/-- The bytes of an unsigned number after `shift` bits of it. -/
def unsignedFrom (name : String) (width : Nat) : Nat → Nat → Nat → Read Nat
  | 0, _, total => return total
  | fuel + 1, shift, total => do
      let b := (← u8).toNat
      let total := total + b % 128 * Nat.pow 2 shift
      if width < shift + 7 && b / Nat.pow 2 (width - shift) != 0 then
        failBefore (tooLong name (128 ≤ b))
      else if b < 128 then return total
      else unsignedFrom name width fuel (shift + 7) total

def unsigned (name : String) (width : Nat) : Read Nat := unsignedFrom name width 10 0 0

def u32 : Read Nat := unsigned "var_u32" 32

def u64 : Read Nat := unsigned "var_u64" 64

/-- The bytes of a signed number after `shift` bits of it. -/
def signedFrom (name : String) (width : Nat) : Nat → Nat → Nat → Read Int
  | 0, _, total => return total
  | fuel + 1, shift, total => do
      let b := (← u8).toNat
      let total := total + b % 128 * Nat.pow 2 shift
      let shift := shift + 7
      let value : Int := if b % 128 < 64 then total else (total : Int) - Nat.pow 2 shift
      if width ≤ shift then
        if 128 ≤ b || value < -(Nat.pow 2 (width - 1)) || Nat.pow 2 (width - 1) ≤ value then
          failBefore (tooLong name (128 ≤ b))
        else return value
      else if b < 128 then return value
      else signedFrom name width fuel shift total

def signed (name : String) (width : Nat) : Read Int := signedFrom name width 10 0 0

def s33 : Read Int := signed "var_s33" 33

/-- A number of items within a limit. -/
def size (limit : Nat) (what : String) : Read Nat := do
  let start ← position
  let n ← u32
  require (n ≤ limit) start s!"{what} size is out of bounds"
  return n

def times (p : Read α) : Nat → Read (List α)
  | 0 => return []
  | n + 1 => do
      let a ← p
      return a :: (← times p n)

def maxStringSize : Nat := 100000

def string : Read String := do
  let n ← u32
  if maxStringSize < n then failBefore "string size out of bounds"
  let b ← bytes n
  match String.fromUTF8? b with
  | some s => return s
  | none => failBefore "malformed UTF-8 encoding"

def invalidLeadingByte (b : UInt8) (what : String) : Read α :=
  failBefore s!"invalid leading byte (0x{Digits.hex b.toNat}) for {what}"

/-- A number of so many bytes, the lowest first. -/
def fixed (size : Nat) : Read Nat := do
  let b ← bytes size
  return b.toList.foldr (fun byte rest => byte.toNat + 256 * rest) 0

end Read

end Rerun.Wasm
