import TensorLang.Text.Utf8

/-!
# Letter case

Comparison of a text with words of ASCII letters, case aside. Of the code points beyond ASCII only
those matter whose lower case or case folding is an ASCII letter: the capital I with a dot and the
Kelvin sign have an ASCII lower case, the long s and the Kelvin sign fold to an ASCII letter.
-/

namespace TensorLang.Text

/-- Lower case of a code point, exact wherever the result is ASCII. -/
def lowerCode (code : Nat) : Nat :=
  if 65 ≤ code && code ≤ 90 then code + 32
  else if code == 0x130 then 105
  else if code == 0x212A then 107
  else code

/-- Case folding of a code point, exact wherever the result is ASCII. -/
def foldCode (code : Nat) : Nat :=
  if 65 ≤ code && code ≤ 90 then code + 32
  else if code == 0x17F then 115
  else if code == 0x212A then 107
  else code

/-- The text in lower case; malformed bytes become the replacement character. -/
def lower (text : Bytes) : Bytes := Utf8.encodeAll ((Utf8.codes text).map lowerCode)

/-- Does the text equal the lower-case ASCII `word`, case aside? -/
def equalFold (text word : Bytes) : Bool :=
  Utf8.encodeAll ((Utf8.codes text).map foldCode) == word

end TensorLang.Text
