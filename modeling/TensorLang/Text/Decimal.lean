import TensorLang.Text.Bytes

/-!
# Numbers as digits

Decimal and hexadecimal spellings of integers. Decimal text has no leading zeros, and a minus sign
for negative numbers; `Decimal.value` reads a run of digits back, leading zeros allowed.
-/

namespace TensorLang

namespace Decimal

/-- The byte that spells the digit `d < 10`. -/
def digit (d : Nat) : UInt8 := UInt8.ofNat (48 + d)

/-- Is this byte one of `0` to `9`? -/
def isDigit (b : UInt8) : Bool := 48 ≤ b && b ≤ 57

/-- The decimal digits of a natural number, most significant first. -/
def ofNat (n : Nat) : Bytes :=
  if n < 10 then [digit n] else ofNat (n / 10) ++ [digit (n % 10)]

/-- Decimal text of an integer: digits, after a minus sign if it is negative. -/
def ofInt : Int → Bytes
  | .ofNat n => ofNat n
  | .negSucc n => 45 :: ofNat (n + 1)

/-- The number that a run of decimal digits spells. -/
def value (digits : Bytes) : Nat :=
  digits.foldl (fun n d => 10 * n + (d.toNat - 48)) 0

/-- Decimal digits with zeros in front up to `width` places. -/
def padded (width n : Nat) : Bytes :=
  let digits := ofNat n
  List.replicate (width - digits.length) 48 ++ digits

end Decimal

namespace Hex

/-- The byte that spells the hexadecimal digit `d < 16`, in lower case. -/
def digit (d : Nat) : UInt8 := UInt8.ofNat (if d < 10 then 48 + d else 87 + d)

/-- `places` hexadecimal digits of `n`, the lowest ones, most significant first. -/
def fixed : (places n : Nat) → Bytes
  | 0, _ => []
  | places + 1, n => fixed places (n / 16) ++ [digit (n % 16)]

/-- Two hexadecimal digits for each byte. -/
def ofBytes (bytes : Bytes) : Bytes := bytes.flatMap fun b => fixed 2 b.toNat

/-- The value of a hexadecimal digit of either case. -/
def digitValue? (b : UInt8) : Option Nat :=
  if 48 ≤ b && b ≤ 57 then some (b.toNat - 48)
  else if 97 ≤ b && b ≤ 102 then some (b.toNat - 87)
  else if 65 ≤ b && b ≤ 70 then some (b.toNat - 55)
  else none

/-- Reads pairs of hexadecimal digits; `none` on an odd length or another byte. -/
def toBytes? : Bytes → Option Bytes
  | [] => some []
  | [_] => none
  | hi :: lo :: rest => do
    let h ← digitValue? hi
    let l ← digitValue? lo
    let more ← toBytes? rest
    pure (UInt8.ofNat (16 * h + l) :: more)

end Hex

end TensorLang
