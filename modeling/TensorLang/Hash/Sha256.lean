import TensorLang.Text.Decimal

/-!
# SHA-256

The secure hash of a byte string: padding to blocks of 64 bytes, the message schedule, and 64 rounds
of compression for each block.
-/

namespace TensorLang.Sha256

/-- The round constants: fractional parts of the cube roots of the first 64 primes. -/
def roundConstants : Array UInt32 := #[
  0x428a2f98, 0x71374491, 0xb5c0fbcf, 0xe9b5dba5, 0x3956c25b, 0x59f111f1, 0x923f82a4, 0xab1c5ed5,
  0xd807aa98, 0x12835b01, 0x243185be, 0x550c7dc3, 0x72be5d74, 0x80deb1fe, 0x9bdc06a7, 0xc19bf174,
  0xe49b69c1, 0xefbe4786, 0x0fc19dc6, 0x240ca1cc, 0x2de92c6f, 0x4a7484aa, 0x5cb0a9dc, 0x76f988da,
  0x983e5152, 0xa831c66d, 0xb00327c8, 0xbf597fc7, 0xc6e00bf3, 0xd5a79147, 0x06ca6351, 0x14292967,
  0x27b70a85, 0x2e1b2138, 0x4d2c6dfc, 0x53380d13, 0x650a7354, 0x766a0abb, 0x81c2c92e, 0x92722c85,
  0xa2bfe8a1, 0xa81a664b, 0xc24b8b70, 0xc76c51a3, 0xd192e819, 0xd6990624, 0xf40e3585, 0x106aa070,
  0x19a4c116, 0x1e376c08, 0x2748774c, 0x34b0bcb5, 0x391c0cb3, 0x4ed8aa4a, 0x5b9cca4f, 0x682e6ff3,
  0x748f82ee, 0x78a5636f, 0x84c87814, 0x8cc70208, 0x90befffa, 0xa4506ceb, 0xbef9a3f7, 0xc67178f2]

/-- The eight words of the chaining state. -/
structure State where
  a : UInt32
  b : UInt32
  c : UInt32
  d : UInt32
  e : UInt32
  f : UInt32
  g : UInt32
  h : UInt32

/-- The state before the first block: fractional parts of the square roots of the first 8 primes. -/
def State.initial : State :=
  ⟨0x6a09e667, 0xbb67ae85, 0x3c6ef372, 0xa54ff53a, 0x510e527f, 0x9b05688c, 0x1f83d9ab, 0x5be0cd19⟩

/-- Turns a word to the right. -/
def rotr (x n : UInt32) : UInt32 := (x >>> n) ||| (x <<< (32 - n))

/-- The word that four bytes spell, most significant first. -/
def wordOf (a b c d : UInt8) : UInt32 :=
  (a.toUInt32 <<< 24) ||| (b.toUInt32 <<< 16) ||| (c.toUInt32 <<< 8) ||| d.toUInt32

/-- The words that a byte string spells; up to three bytes at the end are left out. -/
def words : Bytes → List UInt32
  | a :: b :: c :: d :: rest => wordOf a b c d :: words rest
  | _ => []

/-- The four bytes of a word, most significant first. -/
def wordBytes (w : UInt32) : Bytes :=
  [(w >>> 24).toUInt8, (w >>> 16).toUInt8, (w >>> 8).toUInt8, w.toUInt8]

/-- Appends the next word of the message schedule. -/
def extendSchedule (w : Array UInt32) : Array UInt32 :=
  let i := w.size
  let x := (w[i - 15]?).getD 0
  let y := (w[i - 2]?).getD 0
  let s0 := rotr x 7 ^^^ rotr x 18 ^^^ (x >>> 3)
  let s1 := rotr y 17 ^^^ rotr y 19 ^^^ (y >>> 10)
  w.push ((w[i - 16]?).getD 0 + s0 + (w[i - 7]?).getD 0 + s1)

/-- The 64 words of the message schedule of a block of 16 words. -/
def schedule (block : List UInt32) : Array UInt32 :=
  (List.range 48).foldl (fun w _ => extendSchedule w) block.toArray

/-- One round with the schedule word `w` and the constant `k`. -/
def round (s : State) (w k : UInt32) : State :=
  let s1 := rotr s.e 6 ^^^ rotr s.e 11 ^^^ rotr s.e 25
  let ch := (s.e &&& s.f) ^^^ ((~~~ s.e) &&& s.g)
  let t1 := s.h + s1 + ch + k + w
  let s0 := rotr s.a 2 ^^^ rotr s.a 13 ^^^ rotr s.a 22
  let maj := (s.a &&& s.b) ^^^ (s.a &&& s.c) ^^^ (s.b &&& s.c)
  ⟨t1 + s0 + maj, s.a, s.b, s.c, s.d + t1, s.e, s.f, s.g⟩

/-- Mixes one block of 16 words into the state. -/
def compress (s : State) (block : List UInt32) : State :=
  let t := ((schedule block).toList.zip roundConstants.toList).foldl (fun s p => round s p.1 p.2) s
  ⟨s.a + t.a, s.b + t.b, s.c + t.c, s.d + t.d, s.e + t.e, s.f + t.f, s.g + t.g, s.h + t.h⟩

/-- Mixes all blocks of 16 words into the state. -/
def compressAll (s : State) (ws : List UInt32) : State :=
  if ws.length < 16 then s else compressAll (compress s (ws.take 16)) (ws.drop 16)
termination_by ws.length
decreasing_by simp only [List.length_drop]; omega

/-- The message, a set bit, zeros, and the length in bits as eight bytes: a multiple of 64 bytes. -/
def pad (message : Bytes) : Bytes :=
  let n := message.length
  let zeros := (119 - n % 64) % 64
  let bits := 8 * n
  message ++ [0x80] ++ List.replicate zeros 0 ++
    (List.range 8).map fun i => UInt8.ofNat (bits / Nat.pow 256 (7 - i) % 256)

/-- The 32 bytes of the hash. -/
def hash (message : Bytes) : Bytes :=
  let s := compressAll State.initial (words (pad message))
  [s.a, s.b, s.c, s.d, s.e, s.f, s.g, s.h].flatMap wordBytes

end TensorLang.Sha256
