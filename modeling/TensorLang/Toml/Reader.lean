import TensorLang.Text.Utf8
import TensorLang.Toml.Scalar

/-!
# Reading TOML

The lines of a TOML text: headers of tables, and keys with their values. What the lines mean
together is not looked at here.

* `Toml.readEntries?` reads a whole text. It gives nothing if any line is malformed.
* A text with control codes, malformed UTF-8, the replacement character, or a carriage return that
  no line feed follows is not read at all.
-/

namespace TensorLang.Toml

/-- A key: the names on the way to a value. -/
abbrev Key := List Bytes

/-- A value as it is written. -/
inductive Literal where
  | text (value : Bytes)
  | integer (value : Int)
  | float
  | boolean (value : Bool)
  | moment
  | array (items : List Literal)
  | table (fields : List (Key × Literal))
  deriving Inhabited

/-- A line that says something. -/
inductive Entry where
  /-- The header of a table, or of one more table in a list of them. -/
  | header (key : Key) (isListed : Bool)
  | setting (key : Key) (value : Literal)
  deriving Inhabited

/-! ### Blanks and comments -/

/-- Is the byte a blank within a line? -/
def isBlank (b : UInt8) : Bool := b == 32 || b == 9

/-- Does the byte end a line? -/
def isLineEnd (b : UInt8) : Bool := b == 10 || b == 13

/-- The text behind leading blanks. -/
def skipBlanks (text : Bytes) : Bytes := text.dropWhile isBlank

/-- The text behind leading blanks, line ends and comments. -/
def skipSpace (inComment : Bool) : Bytes → Bytes
  | [] => []
  | b :: rest =>
    if isLineEnd b then skipSpace false rest
    else if inComment then skipSpace true rest
    else if isBlank b then skipSpace false rest
    else if b == 35 then skipSpace true rest
    else b :: rest

/-- The text behind what may follow an entry on its line. -/
def endLine? (text : Bytes) : Option Bytes :=
  match skipBlanks text with
  | [] => some []
  | b :: rest =>
    if b == 35 then some (rest.dropWhile fun b => !isLineEnd b)
    else if isLineEnd b then some rest
    else none

/-! ### Strings -/

/-- Splits behind the quote that closes a string on one line. A backslash takes the next byte with
it, if the string has escapes. -/
def splitString? (quote : UInt8) (hasEscapes : Bool) : Bytes → Option (Bytes × Bytes)
  | [] => none
  | b :: rest =>
    if b == quote then some ([], rest)
    else if isLineEnd b then none
    else if hasEscapes && b == 92 then
      match rest with
      | c :: rest =>
        (splitString? quote hasEscapes rest).map fun (inner, rest) => (b :: c :: inner, rest)
      | [] => none
    else (splitString? quote hasEscapes rest).map fun (inner, rest) => (b :: inner, rest)

/-- Splits behind the three quotes that close a string of many lines. Of four or five quotes the
first ones belong to the string, and more than five never stand together. -/
def splitLongString? (quote : UInt8) (hasEscapes : Bool) : Bytes → Option (Bytes × Bytes)
  | [] => none
  | b :: rest =>
    let run := ((b :: rest).takeWhile (· == quote)).length
    if 6 ≤ run then none
    else if 3 ≤ run then some (List.replicate (run - 3) quote, rest.drop (run - 1))
    else if hasEscapes && b == 92 then
      match rest with
      | c :: rest =>
        (splitLongString? quote hasEscapes rest).map fun (inner, rest) => (b :: c :: inner, rest)
      | [] => none
    else (splitLongString? quote hasEscapes rest).map fun (inner, rest) => (b :: inner, rest)

/-- Reads a code point of `n` hexadecimal digits. -/
def readCode? (n : Nat) (text : Bytes) : Option (Bytes × Bytes) := do
  let digits ← (text.take n).mapM Hex.digitValue?
  let code := digits.foldl (fun code d => 16 * code + d) 0
  guard (digits.length == n && (code < 0xD800 || (0xE000 ≤ code && code < 0x110000)))
  some (Utf8.encode code, text.drop n)

/-- The letters of short escapes and what they stand for. -/
def shortEscapes : List (UInt8 × UInt8) :=
  [(98, 8), (116, 9), (110, 10), (102, 12), (114, 13), (34, 34), (92, 92)]

/-- Reads an escape behind its backslash. In a string of many lines a backslash at the end of a line
takes away all blanks and line ends that follow. -/
def readEscape? (isLong : Bool) : Bytes → Option (Bytes × Bytes)
  | [] => none
  | b :: rest =>
    match shortEscapes.lookup b with
    | some c => some ([c], rest)
    | none =>
      if b == 117 then readCode? 4 rest
      else if b == 85 then readCode? 8 rest
      else
        let isGap (c : UInt8) : Bool := isBlank c || isLineEnd c
        if isLong && ((b :: rest).takeWhile isGap).any isLineEnd then
          some ([], rest.dropWhile isGap)
        else none

/-- Replaces escapes. Every step takes up text, so the length of the text is enough fuel. -/
def unescape? (isLong : Bool) : (fuel : Nat) → Bytes → Option Bytes
  | _, [] => some []
  | 0, _ => none
  | fuel + 1, b :: rest =>
    if b == 92 then do
      let (c, rest) ← readEscape? isLong rest
      some (c ++ (← unescape? isLong fuel rest))
    else do some (b :: (← unescape? isLong fuel rest))

/-- The text without the line end at its beginning. -/
def dropLineEnd : Bytes → Bytes
  | 10 :: rest => rest
  | 13 :: 10 :: rest => rest
  | text => text

/-- Reads a string on one line. -/
def readString? : Bytes → Option (Bytes × Bytes)
  | 34 :: rest => do
    let (inner, rest) ← splitString? 34 true rest
    some (← unescape? false inner.length inner, rest)
  | 39 :: rest => splitString? 39 false rest
  | _ => none

/-- Reads a string of many lines. -/
def readLongString? : Bytes → Option (Bytes × Bytes)
  | 34 :: 34 :: 34 :: rest => do
    let (inner, rest) ← splitLongString? 34 true rest
    some (← unescape? true inner.length (dropLineEnd inner), rest)
  | 39 :: 39 :: 39 :: rest => do
    let (inner, rest) ← splitLongString? 39 false rest
    some (dropLineEnd inner, rest)
  | _ => none

/-! ### Keys -/

/-- May the byte stand in a name without quotes? -/
def isBareByte (b : UInt8) : Bool :=
  Decimal.isDigit b || (65 ≤ b && b ≤ 90) || (97 ≤ b && b ≤ 122) || b == 95 || b == 45

/-- Reads one name of a key. -/
def readName? (text : Bytes) : Option (Bytes × Bytes) :=
  match text.takeWhile isBareByte with
  | [] => readString? text
  | name => some (name, text.dropWhile isBareByte)

/-- Reads a key: names with points between them. The text behind it has no leading blanks. -/
def readKey? : (fuel : Nat) → Bytes → Option (Key × Bytes)
  | 0, _ => none
  | fuel + 1, text => do
    let (name, rest) ← readName? (skipBlanks text)
    match skipBlanks rest with
    | 46 :: rest => do
      let (names, rest) ← readKey? fuel rest
      some (name :: names, rest)
    | rest => some ([name], rest)

/-! ### Values -/

/-- Reads an integer or a float in decimal digits behind a sign. -/
def readDecimal? (sign text : Bytes) : Option (Literal × Bytes) :=
  let isPart (b : UInt8) : Bool := Decimal.isDigit b || b == Numeral.underscore
  let whole := text.takeWhile isPart
  if (text.dropWhile isPart).head?.any fun b => b == 46 || isExponentMark b then
    let isFloatByte (b : UInt8) : Bool :=
      isPart b || b == 46 || b == 45 || b == 43 || isExponentMark b
    if isFloat (sign ++ text.takeWhile isFloatByte) then some (.float, text.dropWhile isFloatByte)
    else none
  else (integer? (sign ++ whole)).map fun n => (.integer n, text.dropWhile isPart)

/-- Reads an integer of another base behind its mark. -/
def readBased? (letter : UInt8) (isDigit : UInt8 → Bool) (text : Bytes) :
    Option (Literal × Bytes) :=
  let isPart (b : UInt8) : Bool := isDigit b || b == Numeral.underscore
  if text.head?.any isDigit then
    (integer? (48 :: letter :: text.takeWhile isPart)).map fun n =>
      (.integer n, text.dropWhile isPart)
  else none

/-- Reads a date or a time. -/
def readMoment? (text : Bytes) : Option (Literal × Bytes) :=
  let isPart (b : UInt8) : Bool :=
    Decimal.isDigit b || [45, 58, 84, 116, 32, 46, 90, 122, 43].any (· == b)
  if isMoment (Bytes.trimRight (· == 32) (text.takeWhile isPart)) then
    some (.moment, text.dropWhile isPart)
  else none

/-- Reads a value that begins with a digit. -/
def readNumber? (text : Bytes) : Option (Literal × Bytes) :=
  match text with
  | 48 :: 98 :: rest => readBased? 98 (fun b => b == 48 || b == 49) rest
  | 48 :: 111 :: rest => readBased? 111 (fun b => 48 ≤ b && b ≤ 55) rest
  | 48 :: 120 :: rest => readBased? 120 isHexDigit rest
  | _ =>
    let digits := text.takeWhile Decimal.isDigit
    if digits != [48] && (text.dropWhile Decimal.isDigit).head?.any fun b => b == 45 || b == 58 then
      readMoment? text
    else readDecimal? [] text

/-- Reads one of the given words. -/
def readWord? (words : List (String × Literal)) (text : Bytes) : Option (Literal × Bytes) :=
  words.findSome? fun (word, value) =>
    (Bytes.dropPrefix? word.utf8 text).map fun rest => (value, rest)

/-- Reads a value that holds no other values. -/
def readScalar? (text : Bytes) : Option (Literal × Bytes) :=
  let floats : List (String × Literal) := [("inf", .float), ("nan", .float)]
  match text with
  | 34 :: 34 :: 34 :: _ | 39 :: 39 :: 39 :: _ =>
    (readLongString? text).map fun (s, rest) => (.text s, rest)
  | b :: rest =>
    if b == 34 || b == 39 then (readString? text).map fun (s, rest) => (.text s, rest)
    else if b == 43 || b == 45 then
      if (rest.head?.any Decimal.isDigit) then readDecimal? [b] rest else readWord? floats rest
    else if Decimal.isDigit b then readNumber? text
    else readWord? (floats ++ [("true", .boolean true), ("false", .boolean false)]) text
  | [] => none

mutual

/-- Reads a value. -/
def readValue? : (fuel : Nat) → Bytes → Option (Literal × Bytes)
  | 0, _ => none
  | fuel + 1, text =>
    match skipBlanks text with
    | 91 :: rest => (readItems? fuel rest).map fun (items, rest) => (.array items, rest)
    | 123 :: rest =>
      match skipBlanks rest with
      | 125 :: rest => some (.table [], rest)
      | rest => (readFields? fuel rest).map fun (fields, rest) => (.table fields, rest)
    | text => readScalar? text

/-- Reads the items of an array and the bracket behind them. -/
def readItems? : (fuel : Nat) → Bytes → Option (List Literal × Bytes)
  | 0, _ => none
  | fuel + 1, text =>
    match skipSpace false text with
    | 93 :: rest => some ([], rest)
    | text => do
      let (item, rest) ← readValue? fuel text
      match skipSpace false rest with
      | 44 :: rest => (readItems? fuel rest).map fun (items, rest) => (item :: items, rest)
      | 93 :: rest => some ([item], rest)
      | _ => none

/-- Reads the fields of a table on one line and the brace behind them. -/
def readFields? : (fuel : Nat) → Bytes → Option (List (Key × Literal) × Bytes)
  | 0, _ => none
  | fuel + 1, text => do
    let (key, rest) ← readKey? text.length text
    let (value, rest) ← readValue? fuel (← readByte? 61 rest)
    match skipBlanks rest with
    | 44 :: rest => (readFields? fuel rest).map fun (fields, rest) => ((key, value) :: fields, rest)
    | 125 :: rest => some ([(key, value)], rest)
    | _ => none

end

/-! ### Entries -/

/-- Reads one entry. -/
def readEntry? (text : Bytes) : Option (Entry × Bytes) :=
  match text with
  | 91 :: 91 :: rest => do
    let (key, rest) ← readKey? rest.length rest
    some (.header key true, ← Bytes.dropPrefix? "]]".utf8 rest)
  | 91 :: rest => do
    let (key, rest) ← readKey? rest.length rest
    some (.header key false, ← readByte? 93 rest)
  | _ => do
    let (key, rest) ← readKey? text.length text
    let (value, rest) ← readValue? (2 * rest.length) (← readByte? 61 rest)
    some (.setting key value, rest)

/-- Reads all entries. Every entry takes up text, so one more than its length is enough fuel. -/
def readLines? : (fuel : Nat) → Bytes → Option (List Entry)
  | 0, _ => none
  | fuel + 1, text =>
    match skipSpace false text with
    | [] => some []
    | text => do
      let (entry, rest) ← readEntry? text
      some (entry :: (← readLines? fuel (← endLine? rest)))

/-- May the code point stand in a text? -/
def isAllowed (code : Nat) : Bool :=
  code == 9 || code == 10 || code == 13 || (32 ≤ code && code != 127 && code != Utf8.replacement)

/-- Does a line feed follow every carriage return? -/
def hasFullReturns : Bytes → Bool
  | [] => true
  | 13 :: 10 :: rest => hasFullReturns rest
  | b :: rest => b != 13 && hasFullReturns rest

/-- The text without the mark of its encoding. -/
def dropMark : Bytes → Bytes
  | 0xFF :: 0xFE :: rest => rest
  | 0xFE :: 0xFF :: rest => rest
  | 0xEF :: 0xBB :: 0xBF :: rest => rest
  | text => text

/-- Reads a whole text. -/
def readEntries? (text : Bytes) : Option (List Entry) :=
  let text := dropMark text
  if (Utf8.codes text).all isAllowed && hasFullReturns text then readLines? (text.length + 1) text
  else none

end TensorLang.Toml
