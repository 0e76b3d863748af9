/-
# SHA-256

The hash with words of 32 bits: 64 rounds on blocks of 64 bytes.
-/
import Keyring.Bytes

namespace Keyring.Hash.Sha256

/-- Eight words: the value carried from block to block. -/
structure Words where
  a : UInt32
  b : UInt32
  c : UInt32
  d : UInt32
  e : UInt32
  f : UInt32
  g : UInt32
  h : UInt32

/-- The word turned right by `k` places. -/
def rotr (x : UInt32) (k : UInt32) : UInt32 :=
  (x >>> k) ||| (x <<< (32 - k))

/-- The constants of the rounds: fractional parts of the cube roots of the first primes. -/
def constants : List UInt32 :=
  [0x428a2f98, 0x71374491, 0xb5c0fbcf, 0xe9b5dba5, 0x3956c25b, 0x59f111f1, 0x923f82a4, 0xab1c5ed5,
  0xd807aa98, 0x12835b01, 0x243185be, 0x550c7dc3, 0x72be5d74, 0x80deb1fe, 0x9bdc06a7, 0xc19bf174,
  0xe49b69c1, 0xefbe4786, 0x0fc19dc6, 0x240ca1cc, 0x2de92c6f, 0x4a7484aa, 0x5cb0a9dc, 0x76f988da,
  0x983e5152, 0xa831c66d, 0xb00327c8, 0xbf597fc7, 0xc6e00bf3, 0xd5a79147, 0x06ca6351, 0x14292967,
  0x27b70a85, 0x2e1b2138, 0x4d2c6dfc, 0x53380d13, 0x650a7354, 0x766a0abb, 0x81c2c92e, 0x92722c85,
  0xa2bfe8a1, 0xa81a664b, 0xc24b8b70, 0xc76c51a3, 0xd192e819, 0xd6990624, 0xf40e3585, 0x106aa070,
  0x19a4c116, 0x1e376c08, 0x2748774c, 0x34b0bcb5, 0x391c0cb3, 0x4ed8aa4a, 0x5b9cca4f, 0x682e6ff3,
  0x748f82ee, 0x78a5636f, 0x84c87814, 0x8cc70208, 0x90befffa, 0xa4506ceb, 0xbef9a3f7, 0xc67178f2]

/-- One round with constant `k` and schedule word `w`. -/
def round (k w : UInt32) (s : Words) : Words :=
  let sum1 := let x := s.e; rotr x 6 ^^^ rotr x 11 ^^^ rotr x 25
  let choice := (s.e &&& s.f) ^^^ (~~~s.e &&& s.g)
  let t1 := s.h + sum1 + choice + k + w
  let sum0 := let x := s.a; rotr x 2 ^^^ rotr x 13 ^^^ rotr x 22
  let majority := (s.a &&& s.b) ^^^ (s.a &&& s.c) ^^^ (s.b &&& s.c)
  ⟨t1 + sum0 + majority, s.a, s.b, s.c, s.d + t1, s.e, s.f, s.g⟩

/-- The rounds of one block; the window holds the next sixteen schedule words. -/
def rounds : List UInt32 → List UInt32 → Words → Words
  | k :: ks, [w0, w1, w2, w3, w4, w5, w6, w7,
      w8, w9, w10, w11, w12, w13, w14, w15], s =>
    let low := let x := w1; rotr x 7 ^^^ rotr x 18 ^^^ (x >>> 3)
    let high := let x := w14; rotr x 17 ^^^ rotr x 19 ^^^ (x >>> 10)
    let next := w0 + low + w9 + high
    rounds ks [w1, w2, w3, w4, w5, w6, w7,
      w8, w9, w10, w11, w12, w13, w14, w15, next] (round k w0 s)
  | _, _, s => s

/-- Adds two values word by word. -/
def Words.add (s t : Words) : Words :=
  ⟨s.a + t.a, s.b + t.b, s.c + t.c, s.d + t.d, s.e + t.e, s.f + t.f, s.g + t.g, s.h + t.h⟩

/-- Takes in the message words, sixteen at a time. -/
def absorb (s : Words) : List UInt32 → Words
  | w0 :: w1 :: w2 :: w3 :: w4 :: w5 :: w6 :: w7
      :: w8 :: w9 :: w10 :: w11 :: w12 :: w13 :: w14 :: w15 :: rest =>
    absorb (s.add (rounds constants [w0, w1, w2, w3, w4, w5, w6, w7,
      w8, w9, w10, w11, w12, w13, w14, w15] s)) rest
  | _ => s

/-- The words that bytes spell, most significant byte first. -/
def words : Bytes → List UInt32
  | b0 :: b1 :: b2 :: b3 :: rest =>
    ((b0.toUInt32 <<< 24) ||| (b1.toUInt32 <<< 16) ||| (b2.toUInt32 <<< 8) ||| b3.toUInt32)
      :: words rest
  | _ => []

/-- The message with a one bit, zero bits and its length in bits behind it, so that blocks of
64 bytes are full. -/
def pad (message : Bytes) : Bytes :=
  let zeros := (119 - message.length % 64) % 64
  message ++ 0x80 :: List.replicate zeros 0 ++ Bytes.ofNatPadded 8 (8 * message.length)

/-- The words one after the other as bytes. -/
def Words.toBytes (s : Words) : Bytes :=
  [s.a, s.b, s.c, s.d, s.e, s.f, s.g, s.h].flatMap fun x => Bytes.ofNatPadded 4 x.toNat

/-- The value before the first block of SHA-256. -/
def start : Words :=
  ⟨0x6a09e667, 0xbb67ae85, 0x3c6ef372, 0xa54ff53a,
    0x510e527f, 0x9b05688c, 0x1f83d9ab, 0x5be0cd19⟩

/-- The SHA-256 hash of a message: 32 bytes. -/
def digest (message : Bytes) : Bytes :=
  (absorb start (words (pad message))).toBytes

end Keyring.Hash.Sha256
