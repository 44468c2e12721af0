import AggregateGateway.Text.Bytes

/-!
The keyed hash SipHash with one round per block and three at the end, under the key zero.
-/

namespace AggregateGateway.Publish

structure HashState where
  v0 : UInt64
  v1 : UInt64
  v2 : UInt64
  v3 : UInt64

namespace HashState

def start : HashState :=
  ⟨0x736f6d6570736575, 0x646f72616e646f6d, 0x6c7967656e657261, 0x7465646279746573⟩

def rotate (x : UInt64) (n : UInt64) : UInt64 :=
  (x <<< n) ||| (x >>> (64 - n))

def round (s : HashState) : HashState :=
  let v0 := s.v0 + s.v1
  let v1 := rotate s.v1 13 ^^^ v0
  let v0 := rotate v0 32
  let v2 := s.v2 + s.v3
  let v3 := rotate s.v3 16 ^^^ v2
  let v0 := v0 + v3
  let v3 := rotate v3 21 ^^^ v0
  let v2 := v2 + v1
  let v1 := rotate v1 17 ^^^ v2
  let v2 := rotate v2 32
  ⟨v0, v1, v2, v3⟩

def absorb (s : HashState) (block : UInt64) : HashState :=
  let s := { s with v3 := s.v3 ^^^ block }.round
  { s with v0 := s.v0 ^^^ block }

def finish (s : HashState) : UInt64 :=
  let s := { s with v2 := s.v2 ^^^ 0xFF }.round.round.round
  s.v0 ^^^ s.v1 ^^^ s.v2 ^^^ s.v3

end HashState

/-- Octets as a number, the first one lowest. -/
def littleEndian : Bytes → UInt64
  | [] => 0
  | b :: bs => b.toUInt64 ||| (littleEndian bs <<< 8)

/-- Absorbs whole blocks of eight octets, then what is left together with the length. -/
def hashBlocks (s : HashState) (length : Nat) (b : Bytes) : HashState :=
  match b with
  | b0 :: b1 :: b2 :: b3 :: b4 :: b5 :: b6 :: b7 :: rest =>
    hashBlocks (s.absorb (littleEndian [b0, b1, b2, b3, b4, b5, b6, b7])) length rest
  | rest => s.absorb (littleEndian rest ||| (length.toUInt64 <<< 56))

def hash (b : Bytes) : UInt64 :=
  (hashBlocks .start b.length b).finish

/-- The hash of a text, whose end is marked by an octet that no text contains. -/
def hashText (s : String) : UInt64 :=
  hash (Text.utf8 s ++ [0xFF])

end AggregateGateway.Publish
