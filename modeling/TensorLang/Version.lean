import TensorLang.Text.Ansi
import TensorLang.Text.Decimal

/-!
# Versions

What the program says about its own version. Semantic versions have up to three numbers without
leading zeros; with all three, a release tag and a build tag may follow.
-/

namespace TensorLang

/-- The version of the program and where it was built from. -/
structure Version where
  number : Bytes := "0.1.0-dev".utf8
  commit : Bytes := []
  message : Bytes := []
  date : Bytes := []
  deriving DecidableEq, Inhabited, Repr

namespace Version

/-- Is the text a number without leading zeros? -/
def isNumber (text : Bytes) : Bool :=
  !text.isEmpty && text.all Decimal.isDigit && (text.length == 1 || text.head? != some 48)

/-- May the byte stand in a tag? -/
def isTagByte (b : UInt8) : Bool :=
  Decimal.isDigit b || (65 ≤ b && b ≤ 90) || (97 ≤ b && b ≤ 122) || b == 45

/-- Is the text a list of words with points between them, each of them accepted by `isWord`? -/
def isTag (isWord : Bytes → Bool) (text : Bytes) : Bool :=
  (Bytes.splitOn 46 text).all fun w => !w.isEmpty && w.all isTagByte && isWord w

/-- A word of a release tag: if it is a number, it has no leading zeros. -/
def isReleaseWord (w : Bytes) : Bool := !w.all Decimal.isDigit || isNumber w

/-- Splits a text in front of the first byte of a class. -/
def splitBefore (p : UInt8 → Bool) (text : Bytes) : Bytes × Bytes :=
  (text.takeWhile fun b => !p b, text.dropWhile fun b => !p b)

/-- The numbers of a version and the tags behind them. -/
def split (number : Bytes) : Bytes × Bytes := splitBefore (fun b => b == 45 || b == 43) number

/-- Is the number a semantic version? -/
def isValid (v : Version) : Bool :=
  let (core, tags) := split v.number
  let (release, build) := splitBefore (· == 43) tags
  let parts := Bytes.splitOn 46 core
  parts.all isNumber && parts.length ≤ 3 && (tags.isEmpty || parts.length == 3) &&
    (release.isEmpty || isTag isReleaseWord (release.drop 1)) &&
    (build.isEmpty || isTag (fun _ => true) (build.drop 1))

/-- The version with its three numbers in colours, if it is a semantic version. -/
def colored (v : Version) (color : Bool) : Bytes :=
  if v.isValid then
    let (core, tags) := split v.number
    let parts := Bytes.splitOn 46 core
    let part (i : Nat) (hue : Ansi.Attribute) : Bytes :=
      Ansi.paint color [hue, .bold] (parts[i]?.getD "0".utf8)
    part 0 .yellow ++ ".".utf8 ++ part 1 .green ++ ".".utf8 ++ part 2 .blue ++ tags
  else v.number

/-- The lines that describe the program. -/
def describe (v : Version) (isColored color : Bool) : Bytes :=
  let line (label : String) (text : Bytes) : Bytes :=
    if text.isEmpty then [] else label.utf8 ++ text ++ [10]
  "tensa ".utf8 ++ (if isColored then v.colored color else v.number) ++ [10] ++
    line "commit: " v.commit ++ line "message: " v.message ++ line "built: " v.date

end Version

end TensorLang
