import TensorLang.Text.Decimal

/-!
# Durations

Durations are whole nanoseconds in 64 bits, kept as integers.

* `Duration.text` writes a duration in the largest unit that fits, with as many places as it needs.
* `Duration.roundTo` goes to the nearest multiple, halves away from zero, and stops at the ends of
  the 64-bit range.
-/

namespace TensorLang.Duration

/-- How far a duration is from zero at most. -/
def farthest : Nat := 9223372036854775808

/-- The greatest duration. -/
def greatest : Int := farthest - 1

/-- The least duration. -/
def least : Int := -farthest

/-- The nearest multiple of `unit`; halves go away from zero. -/
def roundTo (unit : Nat) (d : Int) : Int :=
  let n := d.natAbs
  let nearest := if 2 * (n % unit) < unit then n - n % unit else n - n % unit + unit
  if d < 0 then max least (-(nearest : Int)) else min greatest nearest

/-- Whole microseconds; what is left over is dropped. -/
def micros (d : Int) : Int := Int.tdiv d 1000

/-- `n / 10 ^ places` without trailing zeros. -/
def decimal (places n : Nat) : Bytes :=
  let fraction := Bytes.trimRight (· == 48) (Decimal.padded places (n % Nat.pow 10 places))
  Decimal.ofNat (n / Nat.pow 10 places) ++ (if fraction.isEmpty then [] else [46] ++ fraction)

/-- The text of a number of nanoseconds. -/
def natText (n : Nat) : Bytes :=
  if n == 0 then "0s".utf8
  else if n < 1000 then Decimal.ofNat n ++ "ns".utf8
  else if n < 1000000 then decimal 3 n ++ "µs".utf8
  else if n < 1000000000 then decimal 6 n ++ "ms".utf8
  else
    let minutes := n / 60000000000
    let seconds := decimal 9 (n % 60000000000) ++ "s".utf8
    (if 60 ≤ minutes then Decimal.ofNat (minutes / 60) ++ "h".utf8 else []) ++
      (if 1 ≤ minutes then Decimal.ofNat (minutes % 60) ++ "m".utf8 else []) ++ seconds

/-- The text of a duration. -/
def text (d : Int) : Bytes := (if d < 0 then [45] else []) ++ natText d.natAbs

/-! ### Reading -/

/-- Why a text is no duration. -/
inductive Fault where
  | malformed
  | noUnit
  | unknownUnit (name : Bytes)
  deriving DecidableEq, Inhabited, Repr

/-- A text in quotes, with everything outside printable ASCII as hexadecimal escapes. -/
def quoted (text : Bytes) : Bytes :=
  [34] ++ text.flatMap (fun b =>
    if b < 32 || 128 ≤ b then "\\x".utf8 ++ Hex.fixed 2 b.toNat
    else if b == 34 || b == 92 then [92, b]
    else [b]) ++ [34]

/-- What is said about a text that is no duration. -/
def Fault.message (whole : Bytes) : Fault → Bytes
  | malformed => "time: invalid duration ".utf8 ++ quoted whole
  | noUnit => "time: missing unit in duration ".utf8 ++ quoted whole
  | unknownUnit name =>
    "time: unknown unit ".utf8 ++ quoted name ++ " in duration ".utf8 ++ quoted whole

/-- The units and their nanoseconds. -/
def units : List (String × Nat) :=
  [("ns", 1), ("us", 1000), ("µs", 1000), ("μs", 1000), ("ms", 1000000), ("s", 1000000000),
    ("m", 60000000000), ("h", 3600000000000)]

/-- The nanoseconds of a unit. -/
def unit? (name : Bytes) : Option Nat := (units.find? fun u => u.1.utf8 == name).map Prod.snd

/-- Reads one amount with its unit. The answer is its nanoseconds and the rest. -/
def readTerm (text : Bytes) : Except Fault (Nat × Bytes) :=
  let whole := text.takeWhile Decimal.isDigit
  let behind := text.dropWhile Decimal.isDigit
  let (fraction, behind) := match behind with
    | 46 :: rest => (rest.takeWhile Decimal.isDigit, rest.dropWhile Decimal.isDigit)
    | _ => ([], behind)
  let isName (b : UInt8) : Bool := b != 46 && !Decimal.isDigit b
  let name := behind.takeWhile isName
  if (whole.isEmpty && fraction.isEmpty) || farthest < Decimal.value whole then .error .malformed
  else if name.isEmpty then .error .noUnit
  else
    match unit? name with
    | none => .error (.unknownUnit name)
    | some unit =>
      let n := Decimal.value whole * unit +
        Decimal.value fraction * unit / Nat.pow 10 fraction.length
      if farthest < n then .error .malformed else .ok (n, behind.dropWhile isName)

/-- Reads amounts until the text ends and adds them to `total`. Every amount takes up text, so the
length of the text is enough fuel. -/
def readTerms : (fuel total : Nat) → Bytes → Except Fault Nat
  | _, total, [] => .ok total
  | 0, _, _ => .error .malformed
  | fuel + 1, total, text =>
    match readTerm text with
    | .error f => .error f
    | .ok (n, rest) =>
      if farthest < total + n then .error .malformed else readTerms fuel (total + n) rest

/-- Reads a duration: a sign and amounts with units, or zero without a unit. -/
def read (text : Bytes) : Except Fault Int :=
  let (isNegative, body) := match text with
    | 45 :: rest => (true, rest)
    | 43 :: rest => (false, rest)
    | _ => (false, text)
  if body == "0".utf8 then .ok 0
  else if body.isEmpty then .error .malformed
  else
    match readTerms body.length 0 body with
    | .error f => .error f
    | .ok n =>
      if isNegative then .ok (-(n : Int))
      else if (n : Int) ≤ greatest then .ok n
      else .error .malformed

end TensorLang.Duration
