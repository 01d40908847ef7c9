import TensorLang.Text.Printable
import TensorLang.Text.Utf8

/-!
# Quoted text

Text between quotes with everything unprintable escaped: the short escapes for the control codes
that have one, `\xNN` for other control codes and for malformed bytes, `\uNNNN` and `\UNNNNNNNN` for
unprintable code points. `Quoted.string` uses double quotes, `Quoted.code` single quotes around one
code point.
-/

namespace TensorLang.Quoted

/-- The short escape letter of a control code. -/
def shortEscape? (code : Nat) : Option UInt8 :=
  match code with
  | 7 => some 97
  | 8 => some 98
  | 9 => some 116
  | 10 => some 110
  | 11 => some 118
  | 12 => some 102
  | 13 => some 114
  | _ => none

/-- One code point inside quotes of the kind `quote`. -/
def escape (quote : UInt8) (code : Nat) : Bytes :=
  if code == quote.toNat || code == 92 then [92, UInt8.ofNat code]
  else if Text.isPrintable code then Utf8.encode code
  else
    match shortEscape? code with
    | some letter => [92, letter]
    | none =>
      if code < 0x20 || code == 0x7F then "\\x".utf8 ++ Hex.fixed 2 code
      else if code < 0x10000 then "\\u".utf8 ++ Hex.fixed 4 code
      else "\\U".utf8 ++ Hex.fixed 8 code

/-- A text in double quotes. -/
def string (text : Bytes) : Bytes :=
  let piece (p : Nat × Bytes) : Bytes :=
    if Utf8.isMalformed p then "\\x".utf8 ++ p.2.flatMap fun b => Hex.fixed 2 b.toNat
    else escape 34 p.1
  [34] ++ (Utf8.split text).flatMap piece ++ [34]

/-- One code point in single quotes. -/
def code (c : Nat) : Bytes := [39] ++ escape 39 c ++ [39]

end TensorLang.Quoted
