import TensorLang.Text.Decimal

/-!
# Numerals

Whole numbers as people write them in settings: a sign, then decimal digits, or digits of another
base behind `0b`, `0o` or `0x`. A zero in front of other digits also means base eight. Underscores
may stand between digits and behind the mark of a base.

* `Numeral.read` reads a number of the signed 64-bit range. Digits are read from the left, so a
  number that is already too large is out of range whatever follows.
-/

namespace TensorLang.Numeral

/-- Why a text is no number. -/
inductive Fault where
  | malformed
  | outOfRange
  deriving DecidableEq, Inhabited, Repr

/-- The words for a fault. -/
def Fault.text : Fault → Bytes
  | malformed => "invalid syntax".utf8
  | outOfRange => "value out of range".utf8

/-- The underscore. -/
def underscore : UInt8 := 95

/-- The value of a digit, with letters of either case from ten on. -/
def digitValue? (b : UInt8) : Option Nat :=
  if Decimal.isDigit b then some (b.toNat - 48)
  else if 97 ≤ b && b ≤ 122 then some (b.toNat - 87)
  else if 65 ≤ b && b ≤ 90 then some (b.toNat - 55)
  else none

/-- The base that a letter behind a zero stands for. -/
def markedBase? (letter : UInt8) : Option Nat :=
  match letter with
  | 98 | 66 => some 2
  | 111 | 79 => some 8
  | 120 | 88 => some 16
  | _ => none

/-- The base of a numeral without sign, the digits, and whether a mark stands before them. -/
def split : Bytes → Nat × Bytes × Bool
  | 48 :: letter :: digit :: rest =>
    match markedBase? letter with
    | some base => (base, digit :: rest, true)
    | none => (8, letter :: digit :: rest, false)
  | 48 :: rest => (8, rest, false)
  | digits => (10, digits, false)

/-- Reads digits behind the number `n`; underscores do not count. The number must fit 64 bits. -/
def readDigits (base n : Nat) : Bytes → Except Fault Nat
  | [] => .ok n
  | b :: rest =>
    if b == underscore then readDigits base n rest
    else
      match (digitValue? b).filter (· < base) with
      | none => .error .malformed
      | some d =>
        if UInt64.size ≤ n * base + d then .error .outOfRange
        else readDigits base (n * base + d) rest

/-- Does every underscore stand behind something else and in front of something else? `behind` tells
whether that holds at the beginning. -/
def isSeparated (behind : Bool) : Bytes → Bool
  | [] => true
  | b :: rest =>
    if b == underscore then behind && !rest.isEmpty && isSeparated false rest
    else isSeparated true rest

/-- Reads a number without sign. -/
def readNat (text : Bytes) : Except Fault Nat :=
  if text.isEmpty then .error .malformed
  else
    let (base, digits, isMarked) := split text
    match readDigits base 0 digits with
    | .error f => .error f
    | .ok n =>
      if (if isMarked then isSeparated true digits else isSeparated false text) then .ok n
      else .error .malformed

/-- Half the number of 64-bit words: where the signed ones end. -/
def signedLimit : Nat := 9223372036854775808

/-- Reads a number of the signed 64-bit range. -/
def read (text : Bytes) : Except Fault Int :=
  let (isNegative, body) := match text with
    | 45 :: rest => (true, rest)
    | 43 :: rest => (false, rest)
    | _ => (false, text)
  match readNat body with
  | .error f => .error f
  | .ok n =>
    if isNegative then if n ≤ signedLimit then .ok (-(n : Int)) else .error .outOfRange
    else if n < signedLimit then .ok n
    else .error .outOfRange

end TensorLang.Numeral
