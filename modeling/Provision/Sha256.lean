import Provision.Text.Digits

/-!
# The digest SHA-256

A digest is taken of data that arrives in pieces: a hasher keeps the words that the full blocks so far
have led to, and the bytes that do not fill a block yet. The words after some data depend on the data
alone, not on where it was cut.
-/

namespace Provision.Sha256

structure Words where
  a : UInt32
  b : UInt32
  c : UInt32
  d : UInt32
  e : UInt32
  f : UInt32
  g : UInt32
  h : UInt32
  deriving DecidableEq

/-- The words before the first block: fractional parts of the square roots of eight primes. -/
def initialWords : Words :=
  ⟨0x6A09E667, 0xBB67AE85, 0x3C6EF372, 0xA54FF53A, 0x510E527F, 0x9B05688C, 0x1F83D9AB, 0x5BE0CD19⟩

/-- A constant for each round: fractional parts of the cube roots of sixty-four primes. -/
def roundConstants : Array UInt32 := #[
  0x428A2F98, 0x71374491, 0xB5C0FBCF, 0xE9B5DBA5, 0x3956C25B, 0x59F111F1, 0x923F82A4, 0xAB1C5ED5,
  0xD807AA98, 0x12835B01, 0x243185BE, 0x550C7DC3, 0x72BE5D74, 0x80DEB1FE, 0x9BDC06A7, 0xC19BF174,
  0xE49B69C1, 0xEFBE4786, 0x0FC19DC6, 0x240CA1CC, 0x2DE92C6F, 0x4A7484AA, 0x5CB0A9DC, 0x76F988DA,
  0x983E5152, 0xA831C66D, 0xB00327C8, 0xBF597FC7, 0xC6E00BF3, 0xD5A79147, 0x06CA6351, 0x14292967,
  0x27B70A85, 0x2E1B2138, 0x4D2C6DFC, 0x53380D13, 0x650A7354, 0x766A0ABB, 0x81C2C92E, 0x92722C85,
  0xA2BFE8A1, 0xA81A664B, 0xC24B8B70, 0xC76C51A3, 0xD192E819, 0xD6990624, 0xF40E3585, 0x106AA070,
  0x19A4C116, 0x1E376C08, 0x2748774C, 0x34B0BCB5, 0x391C0CB3, 0x4ED8AA4A, 0x5B9CCA4F, 0x682E6FF3,
  0x748F82EE, 0x78A5636F, 0x84C87814, 0x8CC70208, 0x90BEFFFA, 0xA4506CEB, 0xBEF9A3F7, 0xC67178F2]

@[inline] def rotate (word : UInt32) (places : UInt32) : UInt32 :=
  (word >>> places) ||| (word <<< (32 - places))

@[inline] def byteAt (data : ByteArray) (position : Nat) : UInt8 :=
  if inside : position < data.size then data[position] else 0

def wordAt (block : ByteArray) (position : Nat) : UInt32 :=
  ((byteAt block position).toUInt32 <<< 24) ||| ((byteAt block (position + 1)).toUInt32 <<< 16) |||
    ((byteAt block (position + 2)).toUInt32 <<< 8) ||| (byteAt block (position + 3)).toUInt32

def nextScheduled (schedule : Array UInt32) : UInt32 :=
  let back (distance : Nat) : UInt32 := schedule.getD (schedule.size - distance) 0
  let near := back 2
  let far := back 15
  back 16 + (rotate far 7 ^^^ rotate far 18 ^^^ (far >>> 3)) + back 7 +
    (rotate near 17 ^^^ rotate near 19 ^^^ (near >>> 10))

def extend : Nat → Array UInt32 → Array UInt32
  | 0, schedule => schedule
  | count + 1, schedule => extend count (schedule.push (nextScheduled schedule))

def schedule (block : ByteArray) : Array UInt32 :=
  extend 48 ((Array.range 16).map fun index => wordAt block (4 * index))

def round (words : Words) (constant scheduled : UInt32) : Words :=
  let first := words.h + (rotate words.e 6 ^^^ rotate words.e 11 ^^^ rotate words.e 25) +
    ((words.e &&& words.f) ^^^ (~~~words.e &&& words.g)) + constant + scheduled
  let second := (rotate words.a 2 ^^^ rotate words.a 13 ^^^ rotate words.a 22) +
    ((words.a &&& words.b) ^^^ (words.a &&& words.c) ^^^ (words.b &&& words.c))
  ⟨first + second, words.a, words.b, words.c, words.d + first, words.e, words.f, words.g⟩

/-- The last so many of the sixty-four rounds. -/
def rounds (schedule : Array UInt32) : Nat → Words → Words
  | 0, words => words
  | left + 1, words =>
      let index := 63 - left
      rounds schedule left
        (round words (roundConstants.getD index 0) (schedule.getD index 0))

def compress (words : Words) (block : ByteArray) : Words :=
  let worked := rounds (schedule block) 64 words
  ⟨words.a + worked.a, words.b + worked.b, words.c + worked.c, words.d + worked.d,
    words.e + worked.e, words.f + worked.f, words.g + worked.g, words.h + worked.h⟩

def blockSize : Nat := 64

def absorb (data : ByteArray) (words : Words) (position : Nat) : Nat → Words
  | 0 => words
  | blocks + 1 =>
      absorb data (compress words (data.extract position (position + blockSize)))
        (position + blockSize) blocks

structure Hasher where
  words : Words := initialWords
  pending : ByteArray := .empty
  length : Nat := 0

def Hasher.update (hasher : Hasher) (data : ByteArray) : Hasher :=
  let waiting := hasher.pending ++ data
  let blocks := waiting.size / blockSize
  { words := absorb waiting hasher.words 0 blocks
    pending := waiting.extract (blocks * blockSize) waiting.size
    length := hasher.length + data.size }

def bigEndian (bytes number : Nat) : List UInt8 :=
  (List.range bytes).reverse.map fun place => (number / Nat.pow 256 place % 256).toUInt8

/-- What is put behind data of a given length to fill its last block: a mark, zeros, and the length in
bits. -/
def padding (length : Nat) : ByteArray :=
  let zeros := (blockSize - (length + 9) % blockSize) % blockSize
  ⟨(0x80 :: List.replicate zeros 0 ++ bigEndian 8 (8 * length)).toArray⟩

def Hasher.finish (hasher : Hasher) : Words :=
  (hasher.update (padding hasher.length)).words

def Words.text (words : Words) : String :=
  let all := [words.a, words.b, words.c, words.d, words.e, words.f, words.g, words.h]
  String.ofList (all.flatMap fun word => (bigEndian 4 word.toNat).flatMap Text.hexByte)

def digest (data : ByteArray) : String :=
  ((({} : Hasher).update data).finish).text

end Provision.Sha256
