import TensorLang.Text.Bytes

/-!
# Code points in byte strings

Reading a byte string as UTF-8 one code point at a time. Every byte string can be read: a byte that
begins no well-formed sequence stands for the replacement character and is one byte long.

* `Utf8.decode` gives the first code point and how many bytes it takes.
* `Utf8.decodeLast` gives the last one, which it looks for from the end.
* `Utf8.split` cuts a text into code points; the pieces concatenate to the text.
* `Utf8.encode` writes a code point.
-/

namespace TensorLang.Utf8

/-- The code point that stands for a malformed byte. -/
def replacement : Nat := 0xFFFD

/-- Is `b` a continuation byte? -/
def isTail (b : UInt8) : Bool := 0x80 ≤ b && b ≤ 0xBF

/-- The six payload bits of a continuation byte. -/
def tailBits (b : UInt8) : Nat := b.toNat - 0x80

/-- The least and greatest second byte after the lead byte `a` of a sequence of three or four. -/
def secondRange (a : UInt8) : UInt8 × UInt8 :=
  if a == 0xE0 then (0xA0, 0xBF)
  else if a == 0xED then (0x80, 0x9F)
  else if a == 0xF0 then (0x90, 0xBF)
  else if a == 0xF4 then (0x80, 0x8F)
  else (0x80, 0xBF)

/-- May `b` follow the lead byte `a`? -/
def isSecond (a b : UInt8) : Bool := (secondRange a).1 ≤ b && b ≤ (secondRange a).2

/-- The first code point of a text and its length in bytes; a malformed beginning is the replacement
character of length one, and the empty text has length zero. -/
def decode : Bytes → Nat × Nat
  | [] => (replacement, 0)
  | a :: rest =>
    if a < 0x80 then (a.toNat, 1)
    else if 0xC2 ≤ a && a ≤ 0xDF then
      match rest with
      | b :: _ =>
        if isTail b then ((a.toNat - 0xC0) * 64 + tailBits b, 2) else (replacement, 1)
      | _ => (replacement, 1)
    else if 0xE0 ≤ a && a ≤ 0xEF then
      match rest with
      | b :: c :: _ =>
        if isSecond a b && isTail c then
          (((a.toNat - 0xE0) * 64 + tailBits b) * 64 + tailBits c, 3)
        else (replacement, 1)
      | _ => (replacement, 1)
    else if 0xF0 ≤ a && a ≤ 0xF4 then
      match rest with
      | b :: c :: d :: _ =>
        if isSecond a b && isTail c && isTail d then
          ((((a.toNat - 0xF0) * 64 + tailBits b) * 64 + tailBits c) * 64 + tailBits d, 4)
        else (replacement, 1)
      | _ => (replacement, 1)
    else (replacement, 1)

/-- The last code point of a text and its length in bytes. A sequence is looked for from the last
byte that is no continuation byte, among four; if it does not reach the end exactly, the last byte
is malformed. This is irreducible, so that no one tries to compute it for an unknown text. -/
@[irreducible]
def decodeLast (text : Bytes) : Nat × Nat :=
  match text.reverse with
  | [] => (replacement, 0)
  | last :: before =>
    if last < 0x80 then (last.toNat, 1)
    else
      let size := min (((before.take 3).takeWhile isTail).length + 2) text.length
      let code := decode (text.drop (text.length - size))
      if code.2 = size then code else (replacement, 1)

/-- Cuts a text into code points, each with the bytes it was read from. -/
def split : Bytes → List (Nat × Bytes)
  | [] => []
  | a :: rest =>
    let (code, size) := decode (a :: rest)
    (code, (a :: rest).take size) :: split (rest.drop (size - 1))
termination_by text => text.length
decreasing_by simp only [List.length_drop, List.length_cons]; omega

/-- Is this piece of `split` a malformed byte? -/
def isMalformed (piece : Nat × Bytes) : Bool :=
  piece.1 == replacement && piece.2.length == 1

/-- Is the whole text well-formed? -/
def isValid (text : Bytes) : Bool := (split text).all fun piece => !isMalformed piece

/-- The bytes of a code point. Surrogates and numbers past the last code point are written as the
replacement character. -/
def encode (code : Nat) : Bytes :=
  let tail (n : Nat) : UInt8 := UInt8.ofNat (0x80 + n % 64)
  if code < 0x80 then [UInt8.ofNat code]
  else if code < 0x800 then [UInt8.ofNat (0xC0 + code / 64), tail code]
  else if (0xD800 ≤ code && code < 0xE000) || 0x10FFFF < code then [0xEF, 0xBF, 0xBD]
  else if code < 0x10000 then
    [UInt8.ofNat (0xE0 + code / 4096), tail (code / 64), tail code]
  else
    [UInt8.ofNat (0xF0 + code / 262144), tail (code / 4096), tail (code / 64), tail code]

/-- The bytes of a sequence of code points. -/
def encodeAll (codes : List Nat) : Bytes := codes.flatMap encode

/-- The code points of a text. -/
def codes (text : Bytes) : List Nat := (split text).map Prod.fst

end TensorLang.Utf8
