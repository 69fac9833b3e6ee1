import OtpToken.Bytes

/-!
# ChaCha20

The keystream of a key and a 96-bit nonce comes in numbered blocks of 64 bytes,
and the block number has 32 bits. Data is combined with the keystream from any
block on, but never past the last block that a position in the stream can name.
-/

namespace OtpToken.ChaCha20

/-- The number of bytes of a keystream block. -/
def blockSize : Nat := 64

/-- The number of bytes of a key. -/
def keySize : Nat := 32

/-- The number of bytes of a nonce. -/
def nonceSize : Nat := 12

/-- The sixteen words that the rounds work on. -/
abbrev State := Vector UInt32 16

/-- A word turned left by `count` bits, for a count from 1 to 31. -/
def rotateLeft (word count : UInt32) : UInt32 :=
  (word <<< count) ||| (word >>> (32 - count))

/-- Mixes the four words at the given places. -/
def quarterRound (state : State) (a b c d : Fin 16) : State :=
  let addInto (state : State) (sum term turned : Fin 16) (count : UInt32) : State :=
    let state := state.set sum (state[sum] + state[term])
    state.set turned (rotateLeft (state[turned] ^^^ state[sum]) count)
  let state := addInto state a b d 16
  let state := addInto state c d b 12
  let state := addInto state a b d 8
  addInto state c d b 7

/-- Mixes the four columns, then the four diagonals. -/
def doubleRound (state : State) : State :=
  let state := quarterRound state 0 4 8 12
  let state := quarterRound state 1 5 9 13
  let state := quarterRound state 2 6 10 14
  let state := quarterRound state 3 7 11 15
  let state := quarterRound state 0 5 10 15
  let state := quarterRound state 1 6 11 12
  let state := quarterRound state 2 7 8 13
  quarterRound state 3 4 9 14

/-- The word at place `place` of a byte string, least significant byte first. -/
def wordAt (bytes : Bytes) (place : Nat) : UInt32 :=
  UInt32.ofNat (ofLittleEndian ((bytes.drop (4 * place)).take 4))

/-- The four fixed words, the key, the block number and the nonce. -/
def setup (key : Block keySize) (nonce : Block nonceSize) (number : Nat) : State :=
  let k := wordAt key.val
  let n := wordAt nonce.val
  #v[0x61707865, 0x3320646e, 0x79622d32, 0x6b206574,
     k 0, k 1, k 2, k 3, k 4, k 5, k 6, k 7, UInt32.ofNat number, n 0, n 1, n 2]

/-- Block `number` of the keystream. -/
def keystreamBlock (key : Block keySize) (nonce : Block nonceSize) (number : Nat) :
    Block blockSize :=
  let start := setup key nonce number
  let mixed := (List.range 10).foldl (fun state _ => doubleRound state) start
  Block.padded blockSize
    ((Vector.zipWith (· + ·) mixed start).toList.flatMap fun word => littleEndian 4 word.toNat)

/-- The number of blocks that `length` bytes of keystream reach into. -/
def blocksFor (length : Nat) : Nat := (length + (blockSize - 1)) / blockSize

/-- The first `length` bytes of the keystream from block `first` on. -/
def keystream (key : Block keySize) (nonce : Block nonceSize) (first length : Nat) : Bytes :=
  ((List.range (blocksFor length)).flatMap fun place =>
    (keystreamBlock key nonce (first + place)).val).take length

/-- Combines data with the keystream from block `first` on; none if the blocks up to the last
nameable one do not suffice. -/
def combine? (key : Block keySize) (nonce : Block nonceSize) (first : Nat) (data : Bytes) :
    Option Bytes :=
  if blocksFor data.length ≤ UInt32.size - 1 - first then
    some (List.zipWith (· ^^^ ·) data (keystream key nonce first data.length))
  else none

end OtpToken.ChaCha20
