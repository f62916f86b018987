import Blockwork.Text.Bytes

/-!
# SHA-256

The digest of a byte string. The string is padded to whole blocks of sixty-four bytes; each block is
spread over sixty-four words, which are mixed into a state of eight words one after the other.
-/

namespace Blockwork
namespace Sha256

/-- The constant of each round: the beginning of the fractional part of the cube root of a prime. -/
def roundConstants : List UInt32 :=
  [0x428a2f98, 0x71374491, 0xb5c0fbcf, 0xe9b5dba5, 0x3956c25b, 0x59f111f1, 0x923f82a4, 0xab1c5ed5,
   0xd807aa98, 0x12835b01, 0x243185be, 0x550c7dc3, 0x72be5d74, 0x80deb1fe, 0x9bdc06a7, 0xc19bf174,
   0xe49b69c1, 0xefbe4786, 0x0fc19dc6, 0x240ca1cc, 0x2de92c6f, 0x4a7484aa, 0x5cb0a9dc, 0x76f988da,
   0x983e5152, 0xa831c66d, 0xb00327c8, 0xbf597fc7, 0xc6e00bf3, 0xd5a79147, 0x06ca6351, 0x14292967,
   0x27b70a85, 0x2e1b2138, 0x4d2c6dfc, 0x53380d13, 0x650a7354, 0x766a0abb, 0x81c2c92e, 0x92722c85,
   0xa2bfe8a1, 0xa81a664b, 0xc24b8b70, 0xc76c51a3, 0xd192e819, 0xd6990624, 0xf40e3585, 0x106aa070,
   0x19a4c116, 0x1e376c08, 0x2748774c, 0x34b0bcb5, 0x391c0cb3, 0x4ed8aa4a, 0x5b9cca4f, 0x682e6ff3,
   0x748f82ee, 0x78a5636f, 0x84c87814, 0x8cc70208, 0x90befffa, 0xa4506ceb, 0xbef9a3f7, 0xc67178f2]

/-- The eight words that are mixed. -/
structure State where
  /-- The first word. -/
  a : UInt32
  /-- The second word. -/
  b : UInt32
  /-- The third word. -/
  c : UInt32
  /-- The fourth word. -/
  d : UInt32
  /-- The fifth word. -/
  e : UInt32
  /-- The sixth word. -/
  f : UInt32
  /-- The seventh word. -/
  g : UInt32
  /-- The eighth word. -/
  h : UInt32
deriving DecidableEq, Repr

/-- The state before the first block. -/
def initial : State :=
  ⟨0x6a09e667, 0xbb67ae85, 0x3c6ef372, 0xa54ff53a, 0x510e527f, 0x9b05688c, 0x1f83d9ab, 0x5be0cd19⟩

/-- A word turned to the right. -/
def rotate (word amount : UInt32) : UInt32 :=
  (word >>> amount) ||| (word <<< (32 - amount))

/-- The string followed by a one bit, zero bits and its length in bits, to a whole number of
blocks. -/
def pad (message : Bytes) : Bytes :=
  let zeros := (64 - (message.length + 9) % 64) % 64
  message ++ 0x80 :: (List.replicate zeros 0 ++ Bytes.bigEndian 8 (8 * message.length))

/-- The words of a byte string, four bytes each, the highest first. -/
def words : Bytes → List UInt32
  | first :: second :: third :: fourth :: rest =>
    (first.toUInt32 <<< 24 ||| second.toUInt32 <<< 16 ||| third.toUInt32 <<< 8 |||
      fourth.toUInt32) :: words rest
  | _ => []

/-- The next word of the spread, from those before it, of which the last stands first. -/
def nextWord (before : List UInt32) : UInt32 :=
  let small0 (word : UInt32) := rotate word 7 ^^^ rotate word 18 ^^^ (word >>> 3)
  let small1 (word : UInt32) := rotate word 17 ^^^ rotate word 19 ^^^ (word >>> 10)
  before.getD 15 0 + small0 (before.getD 14 0) + before.getD 6 0 + small1 (before.getD 1 0)

/-- The words of a block spread over all rounds. -/
def spread (block : List UInt32) : List UInt32 :=
  ((List.range 48).foldl (fun before _ => nextWord before :: before) block.reverse).reverse

/-- One round. -/
def round (state : State) (input : UInt32 × UInt32) : State :=
  let big0 := rotate state.a 2 ^^^ rotate state.a 13 ^^^ rotate state.a 22
  let big1 := rotate state.e 6 ^^^ rotate state.e 11 ^^^ rotate state.e 25
  let choice := (state.e &&& state.f) ^^^ (~~~state.e &&& state.g)
  let majority := (state.a &&& state.b) ^^^ (state.a &&& state.c) ^^^ (state.b &&& state.c)
  let first := state.h + big1 + choice + input.1 + input.2
  let second := big0 + majority
  ⟨first + second, state.a, state.b, state.c, state.d + first, state.e, state.f, state.g⟩

/-- Mixes one block into the state. -/
def compress (state : State) (block : List UInt32) : State :=
  let mixed := (roundConstants.zip (spread block)).foldl round state
  ⟨state.a + mixed.a, state.b + mixed.b, state.c + mixed.c, state.d + mixed.d, state.e + mixed.e,
    state.f + mixed.f, state.g + mixed.g, state.h + mixed.h⟩

/-- Mixes the given number of blocks into the state, one after the other. -/
def compressAll : Nat → State → List UInt32 → State
  | 0, state, _ => state
  | count + 1, state, message =>
    compressAll count (compress state (message.take 16)) (message.drop 16)

/-- The digest of a byte string. -/
def digest (message : Bytes) : Bytes :=
  let padded := pad message
  let state := compressAll (padded.length / 64) initial (words padded)
  [state.a, state.b, state.c, state.d, state.e, state.f, state.g, state.h].flatMap fun word =>
    Bytes.bigEndian 4 word.toNat

end Sha256
end Blockwork
