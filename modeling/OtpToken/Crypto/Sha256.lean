import OtpToken.Bytes

/-!
# SHA-256

The message is padded to whole 64-byte blocks and each block is compressed into
eight chained words. The digest is the last chaining value, so it always has 32
bytes.
-/

namespace OtpToken.Sha256

/-- The number of bytes that are compressed at once. -/
def blockSize : Nat := 64

/-- The number of bytes of a digest. -/
def digestSize : Nat := 32

/-- The eight words carried from one block to the next. -/
structure Chaining where
  a : UInt32
  b : UInt32
  c : UInt32
  d : UInt32
  e : UInt32
  f : UInt32
  g : UInt32
  h : UInt32
  deriving DecidableEq, Repr

/-- The first 32 bits of the fractional parts of the square roots of the first eight primes. -/
def Chaining.initial : Chaining where
  a := 0x6a09e667
  b := 0xbb67ae85
  c := 0x3c6ef372
  d := 0xa54ff53a
  e := 0x510e527f
  f := 0x9b05688c
  g := 0x1f83d9ab
  h := 0x5be0cd19

/-- The first 32 bits of the fractional parts of the cube roots of the first 64 primes. -/
def roundConstants : List UInt32 :=
  [0x428a2f98, 0x71374491, 0xb5c0fbcf, 0xe9b5dba5, 0x3956c25b, 0x59f111f1, 0x923f82a4, 0xab1c5ed5,
   0xd807aa98, 0x12835b01, 0x243185be, 0x550c7dc3, 0x72be5d74, 0x80deb1fe, 0x9bdc06a7, 0xc19bf174,
   0xe49b69c1, 0xefbe4786, 0x0fc19dc6, 0x240ca1cc, 0x2de92c6f, 0x4a7484aa, 0x5cb0a9dc, 0x76f988da,
   0x983e5152, 0xa831c66d, 0xb00327c8, 0xbf597fc7, 0xc6e00bf3, 0xd5a79147, 0x06ca6351, 0x14292967,
   0x27b70a85, 0x2e1b2138, 0x4d2c6dfc, 0x53380d13, 0x650a7354, 0x766a0abb, 0x81c2c92e, 0x92722c85,
   0xa2bfe8a1, 0xa81a664b, 0xc24b8b70, 0xc76c51a3, 0xd192e819, 0xd6990624, 0xf40e3585, 0x106aa070,
   0x19a4c116, 0x1e376c08, 0x2748774c, 0x34b0bcb5, 0x391c0cb3, 0x4ed8aa4a, 0x5b9cca4f, 0x682e6ff3,
   0x748f82ee, 0x78a5636f, 0x84c87814, 0x8cc70208, 0x90befffa, 0xa4506ceb, 0xbef9a3f7, 0xc67178f2]

/-- A word turned right by `count` bits, for a count from 1 to 31. -/
def rotateRight (word count : UInt32) : UInt32 :=
  (word >>> count) ||| (word <<< (32 - count))

/-- Spreads a word of the schedule, for the word 15 places later. -/
def spreadLow (word : UInt32) : UInt32 :=
  rotateRight word 7 ^^^ rotateRight word 18 ^^^ (word >>> 3)

/-- Spreads a word of the schedule, for the word two places later. -/
def spreadHigh (word : UInt32) : UInt32 :=
  rotateRight word 17 ^^^ rotateRight word 19 ^^^ (word >>> 10)

/-- The next `count` words of the schedule after the sixteen in `window`, oldest first. -/
def scheduleAfter : (count : Nat) → (window : List UInt32) → List UInt32
  | 0, window => window
  | count + 1, window =>
    let next := spreadHigh (window.getD 14 0) + window.getD 9 0
      + spreadLow (window.getD 1 0) + window.getD 0 0
    window.getD 0 0 :: scheduleAfter count (window.drop 1 ++ [next])

/-- The sixteen words of a block. -/
def wordsOfBlock (block : Bytes) : List UInt32 :=
  (List.range 16).map fun place => UInt32.ofNat (ofBigEndian ((block.drop (4 * place)).take 4))

/-- One of the 64 rounds, with its constant and its word of the schedule. -/
def round (state : Chaining) (input : UInt32 × UInt32) : Chaining :=
  let choice := (state.e &&& state.f) ^^^ ((state.e ^^^ 0xffffffff) &&& state.g)
  let majority := (state.a &&& state.b) ^^^ (state.a &&& state.c) ^^^ (state.b &&& state.c)
  let spreadA := rotateRight state.a 2 ^^^ rotateRight state.a 13 ^^^ rotateRight state.a 22
  let spreadE := rotateRight state.e 6 ^^^ rotateRight state.e 11 ^^^ rotateRight state.e 25
  let first := state.h + spreadE + choice + input.1 + input.2
  let second := spreadA + majority
  { a := first + second, b := state.a, c := state.b, d := state.c
    e := state.d + first, f := state.e, g := state.f, h := state.g }

/-- Takes one block into the chaining value. -/
def compress (state : Chaining) (block : Bytes) : Chaining :=
  let schedule := scheduleAfter 48 (wordsOfBlock block)
  let mixed := (roundConstants.zip schedule).foldl round state
  { a := state.a + mixed.a, b := state.b + mixed.b, c := state.c + mixed.c, d := state.d + mixed.d
    e := state.e + mixed.e, f := state.f + mixed.f, g := state.g + mixed.g, h := state.h + mixed.h }

/-- Appends a set bit, zero bits, and the length in bits, up to a whole number of blocks. -/
def pad (message : Bytes) : Bytes :=
  message ++ 0x80 :: List.replicate ((119 - message.length % 64) % 64) 0
    ++ bigEndian 8 (8 * message.length)

/-- The whole blocks of a byte string, in order. -/
def blocks (bytes : Bytes) : List Bytes :=
  (List.range (bytes.length / blockSize)).map fun place =>
    (bytes.drop (blockSize * place)).take blockSize

/-- The bytes of a chaining value, each word most significant byte first. -/
def Chaining.toBytes (state : Chaining) : Bytes :=
  [state.a, state.b, state.c, state.d, state.e, state.f, state.g, state.h].flatMap
    fun word => bigEndian 4 word.toNat

/-- The SHA-256 digest of a message. -/
def digest (message : Bytes) : Block digestSize :=
  ⟨((blocks (pad message)).foldl compress Chaining.initial).toBytes,
    by simp [Chaining.toBytes, digestSize]⟩

end OtpToken.Sha256
