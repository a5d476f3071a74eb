import Rerun.Wasm.Machine.Numeric

/-! What the operations on vectors give.  A vector is a sequence of lanes, the lowest
bits first. -/

namespace Rerun.Wasm

def lanesOf (bits v : Nat) : List Nat :=
  (List.range (128 / bits)).map fun i => v / Nat.pow 2 (bits * i) % Nat.pow 2 bits

def ofLanes (bits : Nat) (lanes : List Nat) : Nat :=
  lanes.foldr (fun lane rest => lane % Nat.pow 2 bits + Nat.pow 2 bits * rest) 0

def mapLanes (bits : Nat) (f : Nat → Nat) (v : Nat) : Nat := ofLanes bits ((lanesOf bits v).map f)

def zipLanes (bits : Nat) (f : Nat → Nat → Nat) (v w : Nat) : Nat :=
  ofLanes bits (List.zipWith f (lanesOf bits v) (lanesOf bits w))

/-- A lane of nothing but ones, or of nothing but zeros. -/
def mask (bits : Nat) (holds : Bool) : Nat := if holds then Nat.pow 2 bits - 1 else 0

/-- Neighbouring lanes put together by two. -/
def pairwise (f : Int → Int → Int) : List Int → List Int
  | a :: b :: rest => f a b :: pairwise f rest
  | _ => []

namespace LaneUnary

def apply (bits : Nat) (f : LaneUnary) (a : Nat) : Nat :=
  match f with
  | abs => (signedOf bits a).natAbs
  | neg => bitsOfInt bits (-(signedOf bits a))
  | popcnt => IntUnary.popcnt.apply bits a

end LaneUnary

namespace LaneBinary

def apply (bits : Nat) (f : LaneBinary) (a b : Nat) : Nat :=
  let x := signedOf bits a
  let y := signedOf bits b
  match f with
  | add => (a + b) % Nat.pow 2 bits
  | sub => (a + Nat.pow 2 bits - b) % Nat.pow 2 bits
  | mul => a * b % Nat.pow 2 bits
  | addSatS => saturated true bits (x + y)
  | addSatU => saturated false bits (a + b)
  | subSatS => saturated true bits (x - y)
  | subSatU => a - b
  | minS => if x ≤ y then a else b
  | minU => min a b
  | maxS => if x ≤ y then b else a
  | maxU => max a b
  | avgrU => (a + b + 1) / 2
  | q15mulrSatS => saturated true 16 ((x * y + 0x4000).fdiv 0x8000)
  | compare f => mask bits (f.holds bits a b)

end LaneBinary

namespace LaneShift

def apply (bits : Nat) (f : LaneShift) (amount a : Nat) : Nat :=
  match f with
  | shl => a * Nat.pow 2 amount % Nat.pow 2 bits
  | shrS => bitsOfInt bits ((signedOf bits a).fdiv (Nat.pow 2 amount))
  | shrU => a / Nat.pow 2 amount

end LaneShift

namespace FloatLaneBinary

def apply (width : Width) (f : FloatLaneBinary) (a b : Nat) : Nat :=
  let format := width.format
  match f with
  | arithmetic f => f.apply format a b
  | compare f => mask width.bits (f.holds format a b)
  | pmin => if format.lt b a then b else a
  | pmax => if format.lt a b then b else a

end FloatLaneBinary

namespace Vector

/-- Half of the lanes, made twice as wide. -/
def widened (bits : Nat) (high signed : Bool) (v : Nat) : List Int :=
  let lanes := (lanesOf bits v).map (integerOf signed bits)
  let half := lanes.length / 2
  if high then lanes.drop half else lanes.take half

def ofInts (bits : Nat) (lanes : List Int) : Nat := ofLanes bits (lanes.map (bitsOfInt bits))

def signedLanes (bits v : Nat) : List Int := (lanesOf bits v).map (signedOf bits)

/-- Products of signed bytes, added by two and held inside sixteen bits. -/
def dotBytes (a b : Nat) : List Int :=
  (pairwise (· + ·) (List.zipWith (· * ·) (signedLanes 8 a) (signedLanes 8 b))).map
    fun n => signedOf 16 (saturated true 16 n)

def chosen (a b m : Nat) : Nat := (a &&& m) ||| (b &&& ((Nat.pow 2 128 - 1) ^^^ m))

def truncLanes (source : FloatFormat) (bits : Nat) (signed : Bool) (a : Nat) : List Nat :=
  (lanesOf bits a).map (truncatedSaturating source signed 32)

/-- The result for up to three operands, the last of which was on top. -/
def apply (f : Vector) (a b c : Nat) : Nat :=
  match f with
  | not => (Nat.pow 2 128 - 1) ^^^ a
  | and => a &&& b
  | andnot => a &&& ((Nat.pow 2 128 - 1) ^^^ b)
  | or => a ||| b
  | xor => a ^^^ b
  | bitselect | laneselect => chosen a b c
  | anyTrue => flag (a != 0)
  | swizzle =>
      let lanes := lanesOf 8 a
      mapLanes 8 (fun i => (lanes[i]?).getD 0) b
  | splat bits _ => ofLanes bits (List.replicate (128 / bits) a)
  | unary bits f => mapLanes bits (f.apply bits) a
  | binary bits f => zipLanes bits (f.apply bits) a b
  | shift bits f => mapLanes bits (f.apply bits (b % bits)) a
  | allTrue bits => flag ((lanesOf bits a).all (· != 0))
  | bitmask bits =>
      (lanesOf bits a).foldr (fun lane rest => lane / Nat.pow 2 (bits - 1) + 2 * rest) 0
  | floatUnary width f => mapLanes width.bits (f.apply width.format) a
  | floatBinary width f => zipLanes width.bits (f.apply width) a b
  | narrow bits signed =>
      let lanes := signedLanes bits a ++ signedLanes bits b
      ofLanes (bits / 2) (lanes.map (saturated signed (bits / 2)))
  | extend bits high signed => ofInts (2 * bits) (widened bits high signed a)
  | extmul bits high signed =>
      ofInts (2 * bits)
        (List.zipWith (· * ·) (widened bits high signed a) (widened bits high signed b))
  | extaddPairwise bits signed =>
      ofInts (2 * bits) (pairwise (· + ·) ((lanesOf bits a).map (integerOf signed bits)))
  | dot =>
      ofInts 32 (pairwise (· + ·) (List.zipWith (· * ·) (signedLanes 16 a) (signedLanes 16 b)))
  | truncSat32 signed => ofLanes 32 (truncLanes .single 32 signed a)
  | truncSat64Zero signed => ofLanes 32 (truncLanes .double 64 signed a)
  | convert32 signed =>
      mapLanes 32 (fun lane => FloatFormat.single.ofInt (integerOf signed 32 lane)) a
  | convertLow32 signed =>
      ofLanes 64 (((lanesOf 32 a).take 2).map fun lane =>
        FloatFormat.double.ofInt (integerOf signed 32 lane))
  | demoteZero => ofLanes 32 ((lanesOf 64 a).map (FloatFormat.double.convert .single))
  | promoteLow => ofLanes 64 (((lanesOf 32 a).take 2).map (FloatFormat.single.convert .double))
  | relaxedMadd width negated =>
      let format := width.format
      let product := fun x y z => format.mulAdd (if negated then format.neg x else x) y z
      ofLanes width.bits
        ((((lanesOf width.bits a).zip (lanesOf width.bits b)).zip (lanesOf width.bits c)).map
          fun ((x, y), z) => product x y z)
  | relaxedDot => ofInts 16 (dotBytes a b)
  | relaxedDotAdd =>
      ofInts 32 (List.zipWith (· + ·) (pairwise (· + ·) (dotBytes a b)) (signedLanes 32 c))

/-- How many vectors and numbers are taken. -/
def operandCount (f : Vector) : Nat := f.signature.1.length

end Vector

/-- The lanes of two vectors that the indices name. -/
def shuffled (indices : List Nat) (a b : Nat) : Nat :=
  let lanes := lanesOf 8 a ++ lanesOf 8 b
  ofLanes 8 (indices.map fun i => (lanes[i]?).getD 0)

def extractedLane (bits : Nat) (signed : Bool) (lane v : Nat) : Nat :=
  let found := v / Nat.pow 2 (bits * lane) % Nat.pow 2 bits
  if signed then signExtend bits 32 found else found

def withLane (bits lane v n : Nat) : Nat := ofLanes bits ((lanesOf bits v).set lane n)

/-- What is pushed for the bytes that a load has read, the lowest first. -/
def Load.value (f : Load) (n : Nat) : Nat :=
  match f with
  | whole _ => n
  | part type bits signed => if signed then signExtend bits type.bits n else n
  | widened bits signed =>
      Vector.ofInts (2 * bits) (Vector.widened bits false signed n)
  | splatted bits => ofLanes bits (List.replicate (128 / bits) n)
  | zeroExtended _ => n

def AtomicUpdate.apply (f : AtomicUpdate) (bits held n : Nat) : Nat :=
  match f with
  | add => (held + n) % Nat.pow 2 bits
  | sub => (held + Nat.pow 2 bits - n % Nat.pow 2 bits) % Nat.pow 2 bits
  | and => held &&& n
  | or => (held ||| n) % Nat.pow 2 bits
  | xor => (held ^^^ n) % Nat.pow 2 bits
  | exchange => n % Nat.pow 2 bits

end Rerun.Wasm
