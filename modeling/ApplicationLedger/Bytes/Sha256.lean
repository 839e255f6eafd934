/-
This file computes the SHA-256 digest of some bytes and the keyed digest built from it
(HMAC). Words have 32 bits and their addition wraps.
-/

import ApplicationLedger.Bytes.Utf8

namespace ApplicationLedger.Sha256

/-! ### The constants -/

/-- The first 32 bits of the fractional parts of the cube roots of the first 64 primes. -/
def roundConstants : List UInt32 :=
  [0x428a2f98, 0x71374491, 0xb5c0fbcf, 0xe9b5dba5, 0x3956c25b, 0x59f111f1, 0x923f82a4, 0xab1c5ed5,
    0xd807aa98, 0x12835b01, 0x243185be, 0x550c7dc3, 0x72be5d74, 0x80deb1fe, 0x9bdc06a7, 0xc19bf174,
    0xe49b69c1, 0xefbe4786, 0x0fc19dc6, 0x240ca1cc, 0x2de92c6f, 0x4a7484aa, 0x5cb0a9dc, 0x76f988da,
    0x983e5152, 0xa831c66d, 0xb00327c8, 0xbf597fc7, 0xc6e00bf3, 0xd5a79147, 0x06ca6351, 0x14292967,
    0x27b70a85, 0x2e1b2138, 0x4d2c6dfc, 0x53380d13, 0x650a7354, 0x766a0abb, 0x81c2c92e, 0x92722c85,
    0xa2bfe8a1, 0xa81a664b, 0xc24b8b70, 0xc76c51a3, 0xd192e819, 0xd6990624, 0xf40e3585, 0x106aa070,
    0x19a4c116, 0x1e376c08, 0x2748774c, 0x34b0bcb5, 0x391c0cb3, 0x4ed8aa4a, 0x5b9cca4f, 0x682e6ff3,
    0x748f82ee, 0x78a5636f, 0x84c87814, 0x8cc70208, 0x90befffa, 0xa4506ceb, 0xbef9a3f7, 0xc67178f2]

/-- The eight chaining words. -/
structure Chain where
  a : UInt32
  b : UInt32
  c : UInt32
  d : UInt32
  e : UInt32
  f : UInt32
  g : UInt32
  h : UInt32

/-- The first 32 bits of the fractional parts of the square roots of the first eight primes. -/
def initialChain : Chain :=
  ⟨0x6a09e667, 0xbb67ae85, 0x3c6ef372, 0xa54ff53a, 0x510e527f, 0x9b05688c, 0x1f83d9ab, 0x5be0cd19⟩

/-! ### One block -/

/-- A word turned right by some bits, between 1 and 31. -/
def rotateRight (word count : UInt32) : UInt32 :=
  (word >>> count) ||| (word <<< (32 - count))

/-- The word of four bytes, the highest first. -/
def word (a b c d : UInt8) : UInt32 :=
  (a.toUInt32 <<< 24) ||| (b.toUInt32 <<< 16) ||| (c.toUInt32 <<< 8) ||| d.toUInt32

/-- The words of some bytes; a rest of fewer than four bytes is left out. -/
def words : Bytes → List UInt32
  | a :: b :: c :: d :: rest => word a b c d :: words rest
  | _ => []

/-- The message schedule: the first argument says how many words are still to be made, the second
holds the last sixteen words, the oldest first. -/
def schedule : Nat → List UInt32 → List UInt32
  | 0, _ => []
  | count + 1, recent =>
    match recent with
    | [] => []
    | oldest :: rest =>
      let near := recent.getD 1 0
      let far := recent.getD 14 0
      let small := rotateRight near 7 ^^^ rotateRight near 18 ^^^ (near >>> 3)
      let large := rotateRight far 17 ^^^ rotateRight far 19 ^^^ (far >>> 10)
      oldest :: schedule count (rest ++ [oldest + small + recent.getD 9 0 + large])

/-- One round, with its constant and its word of the schedule. -/
def Chain.round (s : Chain) (input : UInt32 × UInt32) : Chain :=
  let turned := rotateRight s.e 6 ^^^ rotateRight s.e 11 ^^^ rotateRight s.e 25
  let choice := (s.e &&& s.f) ^^^ ((~~~ s.e) &&& s.g)
  let first := s.h + turned + choice + input.1 + input.2
  let mixed := rotateRight s.a 2 ^^^ rotateRight s.a 13 ^^^ rotateRight s.a 22
  let majority := (s.a &&& s.b) ^^^ (s.a &&& s.c) ^^^ (s.b &&& s.c)
  ⟨first + (mixed + majority), s.a, s.b, s.c, s.d + first, s.e, s.f, s.g⟩

/-- The chain after one block of sixteen words. -/
def Chain.absorb (s : Chain) (block : List UInt32) : Chain :=
  let t := (roundConstants.zip (schedule 64 block)).foldl Chain.round s
  ⟨s.a + t.a, s.b + t.b, s.c + t.c, s.d + t.d, s.e + t.e, s.f + t.f, s.g + t.g, s.h + t.h⟩

/-! ### Whole messages -/

/-- The bytes behind a message: a set bit, zeros up to eight bytes before a block's end, and the
length of the message in bits. -/
def padding (length : Nat) : Bytes :=
  0x80 :: List.replicate ((119 - length % 64) % 64) 0 ++
    [56, 48, 40, 32, 24, 16, 8, 0].map fun shift => UInt8.ofNat (length * 8 / Nat.pow 2 shift)

/-- The chain after some words, block by block; the first argument bounds the blocks. -/
def absorbAll : Nat → List UInt32 → Chain → Chain
  | 0, _, chain => chain
  | count + 1, rest, chain =>
    if rest.isEmpty then chain else absorbAll count (rest.drop 16) (chain.absorb (rest.take 16))

/-- The four bytes of a word, the highest first. -/
def wordBytes (word : UInt32) : Bytes :=
  [(word >>> 24).toUInt8, (word >>> 16).toUInt8, (word >>> 8).toUInt8, word.toUInt8]

/-- The digest of a message, 32 bytes. -/
def digest (message : Bytes) : Bytes :=
  let padded := words (message ++ padding message.length)
  let chain := absorbAll padded.length padded initialChain
  [chain.a, chain.b, chain.c, chain.d, chain.e, chain.f, chain.g, chain.h].flatMap wordBytes

/-- The digest of a message under a key. A key longer than a block is replaced by its digest. -/
def keyedDigest (key message : Bytes) : Bytes :=
  let short := if key.length > 64 then digest key else key
  let block := short ++ List.replicate (64 - short.length) 0
  digest (block.map (· ^^^ 0x5c) ++ digest (block.map (· ^^^ 0x36) ++ message))

end ApplicationLedger.Sha256
