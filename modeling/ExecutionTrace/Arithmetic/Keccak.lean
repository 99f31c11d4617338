import ExecutionTrace.Arithmetic.Word

/-!
# Keccak-256

The digest that contract code is addressed by: the sponge over the 1600-bit permutation
of 24 rounds, with a rate of 136 bytes and the padding that sets the first and the last
bit after the message.

## Main Definitions

* `Keccak.permute` — the permutation, as five named steps per round
* `Keccak.digest` — the digest of a byte string

## Design Notes

A state is 25 lanes of 64 bits; the lane at column `x` and row `y` has index `x + 5 * y`.
Every step builds its result lane by lane from the previous state, so indices are bounded
where they are written and no step updates in place.
-/

namespace ExecutionTrace

/-- A 256-bit digest, its first byte being the most significant. -/
abbrev Digest := BitVec 256

namespace Keccak

/-- The 25 lanes of a state. -/
abbrev Lanes := Vector UInt64 25

/-- The number of bytes that one application of the permutation absorbs. -/
def rate : Nat := 136

/-- The lane at column `x` and row `y`, both taken modulo five. -/
def lane (s : Lanes) (x y : Nat) : UInt64 :=
  s[x % 5 + 5 * (y % 5)]

/-- Rotation towards the most significant bit. -/
def rotate (w : UInt64) (n : UInt64) : UInt64 :=
  (w <<< n) ||| (w >>> (64 - n))

/-- How far the lane of each index is rotated. -/
def rotations : Vector UInt64 25 :=
  #v[0, 1, 62, 28, 27,
     36, 44, 6, 55, 20,
     3, 10, 43, 25, 39,
     41, 45, 15, 21, 8,
     18, 2, 61, 56, 14]

/-- The constant of each round, in order. -/
def roundConstants : List UInt64 :=
  [0x0000000000000001, 0x0000000000008082, 0x800000000000808a, 0x8000000080008000,
   0x000000000000808b, 0x0000000080000001, 0x8000000080008081, 0x8000000000008009,
   0x000000000000008a, 0x0000000000000088, 0x0000000080008009, 0x000000008000000a,
   0x000000008000808b, 0x800000000000008b, 0x8000000000008089, 0x8000000000008003,
   0x8000000000008002, 0x8000000000000080, 0x000000000000800a, 0x800000008000000a,
   0x8000000080008081, 0x8000000000008080, 0x0000000080000001, 0x8000000080008008]

/-- Adds to each lane the parities of two neighbouring columns. -/
def mixColumns (s : Lanes) : Lanes :=
  let parity : Vector UInt64 5 := Vector.ofFn fun x =>
    lane s x 0 ^^^ lane s x 1 ^^^ lane s x 2 ^^^ lane s x 3 ^^^ lane s x 4
  Vector.ofFn fun i =>
    s[i] ^^^ parity[(i.val + 4) % 5] ^^^ rotate parity[(i.val + 1) % 5] 1

/-- Rotates every lane by its own amount. -/
def rotateLanes (s : Lanes) : Lanes :=
  Vector.ofFn fun i => rotate s[i] rotations[i]

/-- Moves the lane at `(x, y)` to `(y, 2 * x + 3 * y)`. -/
def transpose (s : Lanes) : Lanes :=
  Vector.ofFn fun i => lane s (i.val + 3 * (i.val / 5)) i.val

/-- Combines each lane with the two after it in its row. -/
def combineRows (s : Lanes) : Lanes :=
  Vector.ofFn fun i =>
    s[i] ^^^ (~~~ lane s (i.val + 1) (i.val / 5) &&& lane s (i.val + 2) (i.val / 5))

/-- Adds the round constant to the first lane. -/
def addConstant (c : UInt64) (s : Lanes) : Lanes :=
  s.set 0 (s[0] ^^^ c)

/-- One round. -/
def round (s : Lanes) (c : UInt64) : Lanes :=
  addConstant c (combineRows (transpose (rotateLanes (mixColumns s))))

/-- **The permutation.** -/
def permute (s : Lanes) : Lanes :=
  roundConstants.foldl round s

/-- The number a byte string spells, least significant byte first. -/
def littleEndian (bytes : Bytes) : Nat :=
  bytes.foldr (fun b n => 256 * n + b.toNat) 0

/-- The eight bytes of a lane, least significant first. -/
def laneBytes (w : UInt64) : Bytes :=
  (List.range 8).map fun i => (w >>> UInt64.ofNat (8 * i)).toUInt8

/-- The message, continued to a positive multiple of the rate. -/
def pad (message : Bytes) : Bytes :=
  let missing := rate - message.length % rate
  if missing = 1 then message ++ [0x81]
  else message ++ 0x01 :: List.replicate (missing - 2) 0 ++ [0x80]

/-- Adds a block to the first lanes of a state. -/
def addBlock (s : Lanes) (block : Bytes) : Lanes :=
  Vector.ofFn fun i =>
    if i.val < rate / 8 then
      s[i] ^^^ UInt64.ofNat (littleEndian ((block.drop (8 * i.val)).take 8))
    else s[i]

/-- Absorbs the first `n` blocks of a padded message. -/
def absorb (s : Lanes) : Nat → Bytes → Lanes
  | 0, _ => s
  | n + 1, message =>
      absorb (permute (addBlock s (message.take rate))) n (message.drop rate)

/-- **The digest of a message.** -/
def digest (message : Bytes) : Digest :=
  let padded := pad message
  let final := absorb (Vector.replicate 25 0) (padded.length / rate) padded
  BitVec.ofNat 256 (Bytes.bigEndian ((final.toList.take 4).flatMap laneBytes))

end Keccak

end ExecutionTrace
