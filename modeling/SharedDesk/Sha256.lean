import SharedDesk.Text.Digits
/-!
# The SHA-256 digest

A message is padded to blocks of 64 bytes. Each block is stretched to 64 words, and 64 rounds mix
them into eight words of state, which start as the first 32 bits of the fractional parts of the
square roots of the first eight primes.
-/

namespace SharedDesk.Sha256

/-- The eight words of state. -/
structure Words where
  a : UInt32
  b : UInt32
  c : UInt32
  d : UInt32
  e : UInt32
  f : UInt32
  g : UInt32
  h : UInt32
deriving DecidableEq, Repr

/-- The state before the first block. -/
def start : Words :=
  ⟨0x6a09e667, 0xbb67ae85, 0x3c6ef372, 0xa54ff53a,
    0x510e527f, 0x9b05688c, 0x1f83d9ab, 0x5be0cd19⟩

/-- One constant for each round, from the cube roots of the first 64 primes. -/
def roundConstants : List UInt32 := [
  0x428a2f98, 0x71374491, 0xb5c0fbcf, 0xe9b5dba5, 0x3956c25b, 0x59f111f1, 0x923f82a4, 0xab1c5ed5,
  0xd807aa98, 0x12835b01, 0x243185be, 0x550c7dc3, 0x72be5d74, 0x80deb1fe, 0x9bdc06a7, 0xc19bf174,
  0xe49b69c1, 0xefbe4786, 0x0fc19dc6, 0x240ca1cc, 0x2de92c6f, 0x4a7484aa, 0x5cb0a9dc, 0x76f988da,
  0x983e5152, 0xa831c66d, 0xb00327c8, 0xbf597fc7, 0xc6e00bf3, 0xd5a79147, 0x06ca6351, 0x14292967,
  0x27b70a85, 0x2e1b2138, 0x4d2c6dfc, 0x53380d13, 0x650a7354, 0x766a0abb, 0x81c2c92e, 0x92722c85,
  0xa2bfe8a1, 0xa81a664b, 0xc24b8b70, 0xc76c51a3, 0xd192e819, 0xd6990624, 0xf40e3585, 0x106aa070,
  0x19a4c116, 0x1e376c08, 0x2748774c, 0x34b0bcb5, 0x391c0cb3, 0x4ed8aa4a, 0x5b9cca4f, 0x682e6ff3,
  0x748f82ee, 0x78a5636f, 0x84c87814, 0x8cc70208, 0x90befffa, 0xa4506ceb, 0xbef9a3f7, 0xc67178f2]

/-- Turns a word right by `n` bits, which go in again on the left. -/
def rotate (w n : UInt32) : UInt32 := w >>> n ||| w <<< (32 - n)

/-- One round, with its constant and its word of the stretched block. -/
def round (s : Words) (constant word : UInt32) : Words :=
  let s₁ := rotate s.e 6 ^^^ rotate s.e 11 ^^^ rotate s.e 25
  let choice := (s.e &&& s.f) ^^^ (~~~s.e &&& s.g)
  let t₁ := s.h + s₁ + choice + constant + word
  let s₀ := rotate s.a 2 ^^^ rotate s.a 13 ^^^ rotate s.a 22
  let majority := (s.a &&& s.b) ^^^ (s.a &&& s.c) ^^^ (s.b &&& s.c)
  ⟨t₁ + s₀ + majority, s.a, s.b, s.c, s.d + t₁, s.e, s.f, s.g⟩

/-- The next word of a stretched block, from the words so far, newest first. -/
def nextWord (words : List UInt32) : UInt32 :=
  let w := fun i => words.getD i 0
  let s₀ := rotate (w 14) 7 ^^^ rotate (w 14) 18 ^^^ w 14 >>> 3
  let s₁ := rotate (w 1) 17 ^^^ rotate (w 1) 19 ^^^ w 1 >>> 10
  w 15 + s₀ + w 6 + s₁

/-- Appends `n` words to a block, both newest first. -/
def stretch : (n : Nat) → List UInt32 → List UInt32
  | 0, words => words
  | n + 1, words => stretch n (nextWord words :: words)

/-- Mixes a block of sixteen words into the state. -/
def mix (s : Words) (block : List UInt32) : Words :=
  let words := (stretch 48 block.reverse).reverse
  let m := (roundConstants.zip words).foldl (fun s kw => round s kw.1 kw.2) s
  ⟨s.a + m.a, s.b + m.b, s.c + m.c, s.d + m.d, s.e + m.e, s.f + m.f, s.g + m.g, s.h + m.h⟩

/-- The last `width` bytes of `n`, most significant first. -/
def bytesOf : (width n : Nat) → List UInt8
  | 0, _ => []
  | width + 1, n => bytesOf width (n / 256) ++ [UInt8.ofNat n]

/-- The message with a one bit, zeros, and its length in bits, a whole number of blocks. -/
def pad (message : List UInt8) : List UInt8 :=
  message ++ 0x80 :: List.replicate ((119 - message.length % 64) % 64) 0 ++
    bytesOf 8 (8 * message.length)

/-- The word that four bytes from place `i` make. -/
def wordAt (bytes : List UInt8) (i : Nat) : UInt32 :=
  ((bytes.drop i).take 4).foldl (fun w b => w <<< 8 ||| b.toUInt32) 0

/-- The blocks of a padded message, each of sixteen words. -/
def blocks (bytes : List UInt8) : List (List UInt32) :=
  (List.range (bytes.length / 64)).map fun i =>
    (List.range 16).map fun j => wordAt bytes (64 * i + 4 * j)

/-- The eight words of a message's digest. -/
def digest (message : List UInt8) : Words := (blocks (pad message)).foldl mix start

/-- The digest as 64 lower-case hexadecimal digits. -/
def hexDigest (message : List UInt8) : String :=
  let s := digest message
  String.ofList ([s.a, s.b, s.c, s.d, s.e, s.f, s.g, s.h].flatMap fun w => Text.hexDigits 8 w.toNat)

end SharedDesk.Sha256
