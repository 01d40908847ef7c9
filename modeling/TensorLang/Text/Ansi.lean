import TensorLang.Text.Decimal

/-!
# Coloured text

Terminal attributes around a text. Every attribute is switched off behind the text by its own code,
which is zero for colours and 22 for bold.
-/

namespace TensorLang.Ansi

/-- Terminal attributes. -/
inductive Attribute where
  | bold
  | red
  | green
  | yellow
  | blue
  | cyan
  | white
  deriving DecidableEq, Repr

namespace Attribute

/-- The code that switches the attribute on. -/
def onCode : Attribute → Nat
  | bold => 1
  | red => 31
  | green => 32
  | yellow => 33
  | blue => 34
  | cyan => 36
  | white => 37

/-- The code that switches the attribute off. -/
def offCode : Attribute → Nat
  | bold => 22
  | _ => 0

end Attribute

/-- An escape sequence with the given codes. -/
def sequence (codes : List Nat) : Bytes :=
  [0x1B, 91] ++ Bytes.joinWith ";".utf8 (codes.map Decimal.ofNat) ++ "m".utf8

/-- The text with attributes, or as it is if colour is off. -/
def paint (enabled : Bool) (style : List Attribute) (text : Bytes) : Bytes :=
  if enabled then
    sequence (style.map Attribute.onCode) ++ text ++ sequence (style.map Attribute.offCode)
  else text

end TensorLang.Ansi
