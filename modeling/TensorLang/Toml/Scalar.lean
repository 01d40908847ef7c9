import TensorLang.Text.Numeral

/-!
# Numbers and moments in TOML

The parts of the format that are neither text nor structure: integers, floats, and dates and times.
Only integers have a value here, since no setting takes the others; of them it is only known whether
they are well-formed.
-/

namespace TensorLang.Toml

/-! ### Integers -/

/-- Is the byte a hexadecimal digit? -/
def isHexDigit (b : UInt8) : Bool := (Hex.digitValue? b).isSome

/-- Does a digit stand in front of every underscore and at the end? `behind` tells whether one
stands in front of the text. -/
def isSpaced (behind : Bool) : Bytes → Bool
  | [] => behind
  | b :: rest => (b != Numeral.underscore || behind) && isSpaced (isHexDigit b) rest

/-- Does a number have a zero in front of its other digits? -/
def hasLeadingZero : Bytes → Bool
  | 48 :: b :: _ => !(b == 98 || b == 111 || b == 120)
  | sign :: 48 :: _ :: _ => sign == 43 || sign == 45
  | _ => false

/-- The value of an integer. -/
def integer? (text : Bytes) : Option Int :=
  if isSpaced false text && !hasLeadingZero text then (Numeral.read text).toOption else none

/-! ### Floats -/

/-- The text without the sign in front of it. -/
def dropSign : Bytes → Bytes
  | b :: rest => if b == 43 || b == 45 then rest else b :: rest
  | [] => []

/-- Is the byte the mark of an exponent? -/
def isExponentMark (b : UInt8) : Bool := b == 101 || b == 69

/-- The digits of a decimal fraction as one number, and the power of ten that scales it; the sign is
left out. -/
def decimalFraction? (text : Bytes) : Option (Nat × Int) := do
  let text := dropSign text
  let whole := text.takeWhile Decimal.isDigit
  let behind := text.dropWhile Decimal.isDigit
  let (fraction, behind) := match behind with
    | 46 :: rest => (rest.takeWhile Decimal.isDigit, rest.dropWhile Decimal.isDigit)
    | _ => ([], behind)
  guard (!(whole ++ fraction).isEmpty)
  let power : Int ← match behind with
    | [] => some 0
    | mark :: rest => do
      let digits := dropSign rest
      guard (isExponentMark mark && !digits.isEmpty && digits.all Decimal.isDigit)
      let n : Int := Decimal.value digits
      some (if rest.head? == some 45 then -n else n)
  some (Decimal.value (whole ++ fraction), power - fraction.length)

/-- Is `digits * 10 ^ power` nearer to `2 ^ 1024` than to any double below it? -/
def isBeyondDoubles (digits : Nat) (power : Int) : Bool :=
  let size : Int := (Decimal.ofNat digits).length + power
  if digits == 0 || size < 309 then false
  else if 309 < size then true
  else if 0 ≤ power then (Nat.pow 2 54 - 1) * Nat.pow 2 970 ≤ digits * Nat.pow 10 power.toNat
  else (Nat.pow 2 54 - 1) * Nat.pow 2 970 * Nat.pow 10 (-power).toNat ≤ digits

/-- Does a digit follow every point? -/
def hasFullPoints : Bytes → Bool
  | [] => true
  | 46 :: b :: rest => Decimal.isDigit b && hasFullPoints (b :: rest)
  | [b] => b != 46
  | _ :: rest => hasFullPoints rest

/-- The names of the floats that are no numbers. -/
def isNamedFloat (text : Bytes) : Bool :=
  dropSign text == "inf".utf8 || dropSign text == "nan".utf8

/-- The runs of bytes between points and exponent marks. -/
def floatParts (text : Bytes) : List Bytes :=
  (Bytes.splitOn 46 (text.map fun b => if isExponentMark b then 46 else b)).filter (!·.isEmpty)

/-- Is the text a float? -/
def isFloat (text : Bytes) : Bool :=
  isNamedFloat text ||
    ((floatParts text).all (isSpaced false) && !((floatParts text).head?.any hasLeadingZero) &&
      hasFullPoints text &&
      match decimalFraction? (text.filter (· != Numeral.underscore)) with
      | some (digits, power) => !isBeyondDoubles digits power
      | none => false)

/-! ### Moments -/

/-- The number of days of a month. -/
def daysIn (year month : Nat) : Nat :=
  if month == 2 then if year % 4 == 0 && (year % 100 != 0 || year % 400 == 0) then 29 else 28
  else if month == 4 || month == 6 || month == 9 || month == 11 then 30
  else 31

/-- Reads exactly `n` digits. -/
def readDigits? (n : Nat) (text : Bytes) : Option (Nat × Bytes) :=
  let digits := text.take n
  if digits.length == n && digits.all Decimal.isDigit then
    some (Decimal.value digits, text.drop n)
  else none

/-- Reads a byte. -/
def readByte? (b : UInt8) : Bytes → Option Bytes
  | c :: rest => if b == c then some rest else none
  | [] => none

/-- Reads a date; the answer is the rest. -/
def readDate? (text : Bytes) : Option Bytes := do
  let (year, rest) ← readDigits? 4 text
  let (month, rest) ← readDigits? 2 (← readByte? 45 rest)
  let (day, rest) ← readDigits? 2 (← readByte? 45 rest)
  guard (1 ≤ month && month ≤ 12 && 1 ≤ day && day ≤ daysIn year month)
  some rest

/-- Reads a time of day, whose hour may have one digit; the answer is the rest. -/
def readTime? (text : Bytes) : Option Bytes := do
  let (hour, rest) ← (readDigits? 2 text).or (readDigits? 1 text)
  let (minute, rest) ← readDigits? 2 (← readByte? 58 rest)
  let (second, rest) ← readDigits? 2 (← readByte? 58 rest)
  guard (hour < 24 && minute < 60 && second < 60)
  match rest with
  | 46 :: b :: more =>
    if Decimal.isDigit b then some (more.dropWhile Decimal.isDigit) else some rest
  | _ => some rest

/-- Is the text the offset of a time zone? -/
def isZone : Bytes → Bool
  | [90] => true
  | sign :: rest =>
    (sign == 43 || sign == 45) &&
      match (do
        let (hour, rest) ← readDigits? 2 rest
        let (minute, rest) ← readDigits? 2 (← readByte? 58 rest)
        some (hour, minute, rest)) with
      | some (hour, minute, []) => hour ≤ 24 && minute ≤ 60
      | _ => false
  | [] => false

/-- Is the text a date, a time of day, or both with or without a time zone? -/
def isMoment (text : Bytes) : Bool :=
  let text := text.map fun b => if b == 122 then 90 else if b == 116 || b == 32 then 84 else b
  match readDate? text with
  | some [] => true
  | some (84 :: rest) =>
    match readTime? rest with
    | some [] => true
    | some zone => isZone zone
    | none => false
  | some _ => false
  | none => readTime? text == some []

end TensorLang.Toml
