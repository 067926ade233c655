import GatewayCompiler.Encoding.Hex

/-!
# SHA-256

The hash function of FIPS 180-4 on byte strings.  A message is padded to whole blocks of 64 bytes,
and each block updates eight words of 32 bits.

## Main definitions

* `Chain` — the eight words between two blocks.
* `schedule block` — the sixty-four words a block is expanded to.
* `compress chain block` — the chain behind one block.
* `sha256 message` — the digest, 32 bytes.

## Main statements

* `length_sha256` — a digest has 32 bytes.
-/

namespace GatewayCompiler.Digest

/-- The eight words that one block hands to the next. -/
structure Chain where
  a : UInt32
  b : UInt32
  c : UInt32
  d : UInt32
  e : UInt32
  f : UInt32
  g : UInt32
  h : UInt32

/-- The first 32 bits of the fractional parts of the square roots of the first eight primes. -/
def Chain.initial : Chain :=
  ⟨0x6a09e667, 0xbb67ae85, 0x3c6ef372, 0xa54ff53a, 0x510e527f, 0x9b05688c, 0x1f83d9ab, 0x5be0cd19⟩

/-- The first 32 bits of the fractional parts of the cube roots of the first sixty-four primes. -/
def roundConstants : List UInt32 :=
  [0x428a2f98, 0x71374491, 0xb5c0fbcf, 0xe9b5dba5, 0x3956c25b, 0x59f111f1, 0x923f82a4, 0xab1c5ed5,
   0xd807aa98, 0x12835b01, 0x243185be, 0x550c7dc3, 0x72be5d74, 0x80deb1fe, 0x9bdc06a7, 0xc19bf174,
   0xe49b69c1, 0xefbe4786, 0x0fc19dc6, 0x240ca1cc, 0x2de92c6f, 0x4a7484aa, 0x5cb0a9dc, 0x76f988da,
   0x983e5152, 0xa831c66d, 0xb00327c8, 0xbf597fc7, 0xc6e00bf3, 0xd5a79147, 0x06ca6351, 0x14292967,
   0x27b70a85, 0x2e1b2138, 0x4d2c6dfc, 0x53380d13, 0x650a7354, 0x766a0abb, 0x81c2c92e, 0x92722c85,
   0xa2bfe8a1, 0xa81a664b, 0xc24b8b70, 0xc76c51a3, 0xd192e819, 0xd6990624, 0xf40e3585, 0x106aa070,
   0x19a4c116, 0x1e376c08, 0x2748774c, 0x34b0bcb5, 0x391c0cb3, 0x4ed8aa4a, 0x5b9cca4f, 0x682e6ff3,
   0x748f82ee, 0x78a5636f, 0x84c87814, 0x8cc70208, 0x90befffa, 0xa4506ceb, 0xbef9a3f7, 0xc67178f2]

/-- `rotate x n` is the word `x` rotated to the right by `n` bits. -/
def rotate (x : UInt32) (n : UInt32) : UInt32 := (x >>> n) ||| (x <<< (32 - n))

/-- The words of a byte string, the most significant byte first. -/
def wordsOf : List UInt8 → List UInt32
  | a :: b :: c :: d :: rest =>
    ((a.toUInt32 <<< 24) ||| (b.toUInt32 <<< 16) ||| (c.toUInt32 <<< 8) ||| d.toUInt32)
      :: wordsOf rest
  | _ => []

/-- `bytesOf w` are the bytes of the word `w`, the most significant first. -/
def bytesOf (w : UInt32) : List UInt8 :=
  [(w >>> 24).toUInt8, (w >>> 16).toUInt8, (w >>> 8).toUInt8, w.toUInt8]

/-- `n` more words of a schedule whose words so far are given in reverse. -/
def extend : Nat → List UInt32 → List UInt32
  | 0, words => words
  | n + 1, words =>
    let near := words.getD 1 0
    let far := words.getD 14 0
    let s₁ := rotate near 17 ^^^ rotate near 19 ^^^ (near >>> 10)
    let s₀ := rotate far 7 ^^^ rotate far 18 ^^^ (far >>> 3)
    extend n ((s₁ + words.getD 6 0 + s₀ + words.getD 15 0) :: words)

/-- `schedule block` are the sixty-four words that `block` is expanded to. -/
def schedule (block : List UInt8) : List UInt32 := (extend 48 (wordsOf block).reverse).reverse

/-- One round, with a round constant and a word of the schedule. -/
def round (s : Chain) (constant word : UInt32) : Chain :=
  let sum₁ := rotate s.e 6 ^^^ rotate s.e 11 ^^^ rotate s.e 25
  let choice := (s.e &&& s.f) ^^^ (~~~s.e &&& s.g)
  let t₁ := s.h + sum₁ + choice + constant + word
  let sum₀ := rotate s.a 2 ^^^ rotate s.a 13 ^^^ rotate s.a 22
  let majority := (s.a &&& s.b) ^^^ (s.a &&& s.c) ^^^ (s.b &&& s.c)
  ⟨t₁ + (sum₀ + majority), s.a, s.b, s.c, s.d + t₁, s.e, s.f, s.g⟩

/-- `compress s block` is the chain behind `block`, where `s` is the one in front of it. -/
def compress (s : Chain) (block : List UInt8) : Chain :=
  let t := (roundConstants.zip (schedule block)).foldl (fun r p => round r p.1 p.2) s
  ⟨s.a + t.a, s.b + t.b, s.c + t.c, s.d + t.d, s.e + t.e, s.f + t.f, s.g + t.g, s.h + t.h⟩

/-- The bytes of a number in `n` places, the most significant first. -/
def bigEndian : Nat → Nat → List UInt8
  | 0, _ => []
  | n + 1, value => bigEndian n (value / 256) ++ [UInt8.ofNat value]

/-- `padded message` is the message, a one bit, zeros up to a whole number of blocks less eight
bytes, and the length of the message in bits. -/
def padded (message : List UInt8) : List UInt8 :=
  let zeros := (119 - message.length % 64) % 64
  message ++ 0x80 :: List.replicate zeros 0 ++ bigEndian 8 (8 * message.length)

/-- The chain behind the first `n` blocks of `bytes`. -/
def chainAfter : Nat → Chain → List UInt8 → Chain
  | 0, s, _ => s
  | n + 1, s, bytes => chainAfter n (compress s (bytes.take 64)) (bytes.drop 64)

/-- `sha256 message` is the digest of `message`, block by block from `Chain.initial`. -/
def sha256 (message : List UInt8) : List UInt8 :=
  let bytes := padded message
  let s := chainAfter (bytes.length / 64) Chain.initial bytes
  bytesOf s.a ++ bytesOf s.b ++ bytesOf s.c ++ bytesOf s.d
    ++ bytesOf s.e ++ bytesOf s.f ++ bytesOf s.g ++ bytesOf s.h

/-- A digest has 32 bytes, four for each word of the last `Chain`. -/
@[simp] theorem length_sha256 (message : List UInt8) : (sha256 message).length = 32 := rfl

end GatewayCompiler.Digest
