import TensorLang.Emit.Token

/-!
# Literals of emitted code

How far numbers, quoted texts and characters reach, and what is wrong with them. The offsets of
faults count from the beginning of the literal.

* `Literal.number` reads a number, `Literal.string` and `Literal.char` what stands in quotes, and
  `Literal.raw` what stands in backquotes.
* `Literal.unquote?` is the text that a quoted text stands for.
* `Literal.plainNumber` is the usual spelling of a number.
-/

namespace TensorLang.Emit

/-- A literal at the beginning of a text. -/
structure Literal where
  kind : TokenKind
  length : Nat
  /-- The offsets of faults in it. -/
  faults : List Nat := []
  deriving DecidableEq, Inhabited, Repr

namespace Literal

/-- An ASCII letter in lower case; other bytes may change, but not into letters. -/
def lower (b : UInt8) : UInt8 := b ||| 32

/-- Is `b` a hexadecimal digit? -/
def isHexDigit (b : UInt8) : Bool := (Hex.digitValue? b).isSome

/-! ### Numbers -/

/-- The beginning of a text made of digits and underscores. Up to base ten all decimal digits are
taken. -/
def takeDigits (base : Nat) (text : Bytes) : Bytes :=
  text.takeWhile fun b => b == 95 || (if base ≤ 10 then Decimal.isDigit b else isHexDigit b)

/-- Is there a digit among digits and underscores? -/
def hasDigit (digits : Bytes) : Bool := digits.any (· != 95)

/-- The offset of the first underscore that is not between two digits. `digit` says whether a digit,
or the mark of a base, stands in front of the text, and `under` whether an underscore does. -/
def badUnderscore? (isDigit : UInt8 → Bool) (digit under : Bool) (offset : Nat) :
    Bytes → Option Nat
  | [] => if under then some (offset - 1) else none
  | b :: rest =>
    if b == 95 then
      if digit then badUnderscore? isDigit false true (offset + 1) rest else some offset
    else if isDigit b then badUnderscore? isDigit true false (offset + 1) rest
    else if under then some (offset - 1)
    else badUnderscore? isDigit false false (offset + 1) rest

/-- Reads the number at the beginning of a text, which begins with a digit or with a point and a
digit. -/
def number (text : Bytes) : Literal :=
  let letter : Option UInt8 :=
    if text.head? == some 48 then
      (text[1]?.map lower).filter fun b => b == 120 || b == 111 || b == 98
    else none
  let base := if letter == some 120 then 16 else if letter == some 98 then 2
    else if letter == some 111 || text.head? == some 48 then 8 else 10
  let mark := if letter.isSome then 2 else 0
  let whole := takeDigits base (text.drop mark)
  let point := mark + whole.length
  let hasPoint := text[point]? == some 46
  let part := if hasPoint then takeDigits base (text.drop (point + 1)) else []
  let power := point + (if hasPoint then 1 + part.length else 0)
  let powerLetter := (text[power]?.map lower).filter fun b => b == 101 || b == 112
  let sign := if (text[power + 1]?).any fun b => b == 43 || b == 45 then 1 else 0
  let exponent := if powerLetter.isSome then takeDigits 10 (text.drop (power + 1 + sign)) else []
  let stop := if powerLetter.isSome then power + 1 + sign + exponent.length else power
  let isImaginary := text[stop]? == some 105
  let length := if isImaginary then stop + 1 else stop
  let kind : TokenKind := if isImaginary then .imaginary
    else if hasPoint || powerLetter.isSome then .float else .int
  let limit := UInt8.ofNat (48 + base)
  let badDigit := whole.findIdx fun b => b != 95 && limit ≤ b
  let isMarkedSmall := letter == some 111 || letter == some 98
  let isDigit := if letter == some 120 then isHexDigit else Decimal.isDigit
  ⟨kind, length,
    (if hasPoint && isMarkedSmall then [point] else []) ++
    (if hasDigit whole || hasDigit part then [] else [0]) ++
    (if powerLetter == some 101 && letter.isSome then [power] else []) ++
    (if powerLetter == some 112 && letter != some 120 then [power] else []) ++
    (if powerLetter.isSome && !hasDigit exponent then [0] else []) ++
    (if letter == some 120 && hasPoint && powerLetter.isNone then [0] else []) ++
    (if kind == .int && base ≤ 10 && badDigit < whole.length then [mark + badDigit] else []) ++
    ((badUnderscore? isDigit letter.isSome false mark ((text.take length).drop mark)).toList)⟩

/-- Replaces the last byte `old` of a text. -/
def replaceLast (old new : UInt8) (text : Bytes) : Bytes :=
  let tail := text.reverse.takeWhile (· != old)
  if tail.length < text.length then
    text.take (text.length - tail.length - 1) ++ new :: tail.reverse
  else text

/-- A number with base marks and exponent marks in lower case, and without leading zeros if it is an
imaginary integer. -/
def plainNumber (text : Bytes) : Bytes :=
  match text with
  | 48 :: 88 :: rest | 48 :: 120 :: rest => 48 :: 120 :: replaceLast 80 112 rest
  | 48 :: 79 :: rest => 48 :: 111 :: rest
  | 48 :: 66 :: rest => 48 :: 98 :: rest
  | _ =>
    if text.length < 2 || Bytes.startsWith text "0o".utf8 || Bytes.startsWith text "0b".utf8 then
      text
    else if List.contains text 69 then replaceLast 69 101 text
    else if text.getLast? == some 105 && !text.any (fun b => b == 46 || b == 101) then
      let rest := text.dropWhile fun b => b == 48 || b == 95
      if rest == [105] then "0i".utf8 else rest
    else text

/-! ### Texts and characters in quotes -/

/-- What follows a backslash. -/
structure Escape where
  length : Nat
  /-- The offset of what is wrong with it, from behind the backslash. -/
  fault : Option Nat := none
  /-- The value, and whether it is a byte and not a code point. -/
  value : Nat := 0
  isByte : Bool := false

/-- An escape of `count` digits behind `skip` bytes, with a greatest value. -/
def escapeDigits (skip count base limit : Nat) (isByte : Bool) (text : Bytes) : Escape :=
  let digits := ((text.drop skip).take count).takeWhile fun b =>
    ((Hex.digitValue? b).getD 16) < base
  let value := digits.foldl (fun v b => v * base + (Hex.digitValue? b).getD 0) 0
  let length := skip + digits.length
  if digits.length < count then ⟨length, some length, 0, isByte⟩
  else if limit < value || (0xD800 ≤ value && value < 0xE000) then ⟨length, some 0, 0, isByte⟩
  else ⟨length, none, value, isByte⟩

/-- Reads what follows a backslash. -/
def escape (quote : UInt8) (text : Bytes) : Escape :=
  let short (value : Nat) : Escape := { length := 1, value, isByte := true }
  match text with
  | [] => { length := 0, fault := some 0 }
  | b :: _ =>
    if b == quote || b == 92 then short b.toNat
    else if 48 ≤ b && b ≤ 55 then escapeDigits 0 3 8 255 true text
    else
      match b with
      | 97 => short 7
      | 98 => short 8
      | 102 => short 12
      | 110 => short 10
      | 114 => short 13
      | 116 => short 9
      | 118 => short 11
      | 120 => escapeDigits 1 2 16 255 true text
      | 117 => escapeDigits 1 4 16 0x10FFFF false text
      | 85 => escapeDigits 1 8 16 0x10FFFF false text
      | _ => { length := 0, fault := some 0 }

/-- What has been read of a literal in quotes: its length, the offsets of bad escapes, and the
number of characters. -/
structure Inside where
  length : Nat
  faults : List Nat
  count : Nat
  closed : Bool

/-- Reads up to the closing quote or the end of the line. -/
def inside (quote : UInt8) : (fuel : Nat) → Inside → Bytes → Inside
  | 0, s, _ => s
  | fuel + 1, s, text =>
    match text with
    | [] => s
    | b :: rest =>
      if b == 10 then s
      else if b == quote then { s with length := s.length + 1, closed := true }
      else if b == 92 then
        let e := escape quote rest
        inside quote fuel
          { s with
            length := s.length + 1 + e.length
            faults := s.faults ++ (e.fault.map (s.length + 1 + ·)).toList
            count := s.count + 1 }
          (rest.drop e.length)
      else
        let size := (Utf8.decode text).2
        inside quote fuel { s with length := s.length + size, count := s.count + 1 }
          (text.drop size)

/-- Reads a text in quotes, from its opening quote on. -/
def string (text : Bytes) : Literal :=
  let s := inside 34 text.length ⟨1, [], 0, false⟩ (text.drop 1)
  ⟨.quoted, s.length, (if s.closed then [] else [0]) ++ s.faults⟩

/-- Reads a character in quotes, from its opening quote on. -/
def char (text : Bytes) : Literal :=
  let s := inside 39 text.length ⟨1, [], 0, false⟩ (text.drop 1)
  ⟨.char, s.length, if s.faults.isEmpty && !(s.closed && s.count == 1) then [0] else s.faults⟩

/-- Reads a text in backquotes, from its opening backquote on. -/
def raw (text : Bytes) : Literal :=
  let inner := (text.drop 1).takeWhile (· != 96)
  if inner.length + 1 < text.length then ⟨.quoted, inner.length + 2, []⟩
  else ⟨.quoted, text.length, [0]⟩

/-- The text between the quotes with its escapes resolved. -/
def resolve (quote : UInt8) : (fuel : Nat) → Bytes → Option Bytes
  | 0, _ => none
  | fuel + 1, text =>
    match text with
    | [] => none
    | b :: rest =>
      if b == quote then if rest.isEmpty then some [] else none
      else if b == 10 then none
      else if b == 92 then
        let e := escape quote rest
        match e.fault with
        | some _ => none
        | none => (resolve quote fuel (rest.drop e.length)).map fun more =>
          (if e.isByte then [UInt8.ofNat e.value] else Utf8.encode e.value) ++ more
      else (resolve quote fuel rest).map (b :: ·)

/-- The text that a text in quotes or backquotes stands for. -/
def unquote? (text : Bytes) : Option Bytes :=
  match text with
  | 96 :: rest =>
    let inner := rest.takeWhile (· != 96)
    if inner.length + 1 == rest.length then some (inner.filter (· != 13)) else none
  | 34 :: rest => resolve 34 (text.length + 1) rest
  | _ => none

end Literal

end TensorLang.Emit
