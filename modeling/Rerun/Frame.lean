/-! Frame requests.  At most one callback is armed; a later request replaces it. -/

namespace Rerun

structure FrameSlot (κ : Type) where
  pending : Option κ := none
deriving Repr

namespace FrameSlot

variable {κ : Type}

def request (_ : FrameSlot κ) (callback : κ) : FrameSlot κ := ⟨some callback⟩

def isArmed (slot : FrameSlot κ) : Bool := slot.pending.isSome

/-- Takes the armed callback and runs it.  `requests` are the callbacks it
requests while it runs, in order; they find the slot already empty. -/
def fire (slot : FrameSlot κ) (requests : κ → List κ) : Option κ × FrameSlot κ :=
  match slot.pending with
  | none => (none, slot)
  | some callback => (some callback, (requests callback).foldl request ⟨none⟩)

end FrameSlot

/-- A callback that arms itself again a number of times. -/
structure Repeating where
  id : Nat
  again : Nat
deriving DecidableEq, Repr

def Repeating.requests (r : Repeating) : List Repeating :=
  match r.again with
  | 0 => []
  | n + 1 => [⟨r.id, n⟩]

end Rerun
