import TensorLang.Text.Decimal
import TensorLang.Text.Utf8

/-!
# JSON documents

Values with the fields of objects in writing order, and two ways to write them: on one line, and
indented by two blanks a level.

Strings are written so that they can stand in HTML: besides quotes, backslashes and control codes,
the signs `<`, `>`, `&` and the two Unicode line separators are escaped. A malformed byte is written
as the replacement character itself, which is not escaped.
-/

namespace TensorLang

/-- JSON values. Numbers carry their text. -/
inductive Json where
  | null
  | bool (b : Bool)
  | number (text : Bytes)
  | string (text : Bytes)
  | array (items : List Json)
  | object (fields : List (Bytes × Json))
  deriving Inhabited

namespace Json

/-- A natural number. -/
def nat (n : Nat) : Json := number (Decimal.ofNat n)

/-- An integer. -/
def int (n : Int) : Json := number (Decimal.ofInt n)

/-- The escape of a 16-bit number. -/
def unitEscape (n : Nat) : Bytes := "\\u".utf8 ++ Hex.fixed 4 n

/-- One piece of a text inside quotes. -/
def escapePiece (piece : Nat × Bytes) : Bytes :=
  if Utf8.isMalformed piece then Utf8.encode Utf8.replacement
  else
    match piece.1 with
    | 34 => "\\\"".utf8
    | 92 => "\\\\".utf8
    | 8 => "\\b".utf8
    | 12 => "\\f".utf8
    | 10 => "\\n".utf8
    | 13 => "\\r".utf8
    | 9 => "\\t".utf8
    | code =>
      if code < 0x20 || code == 60 || code == 62 || code == 38 || code == 0x2028 ||
          code == 0x2029 then
        unitEscape code
      else piece.2

/-- A text in quotes. -/
def quote (text : Bytes) : Bytes := [34] ++ (Utf8.split text).flatMap escapePiece ++ [34]

mutual

/-- A value on one line. -/
def compact : Json → Bytes
  | null => "null".utf8
  | bool b => if b then "true".utf8 else "false".utf8
  | number text => text
  | string text => quote text
  | array items => [91] ++ compactItems items ++ [93]
  | object fields => [123] ++ compactFields fields ++ [125]

/-- The items of an array on one line. -/
def compactItems : List Json → Bytes
  | [] => []
  | [item] => item.compact
  | item :: rest => item.compact ++ [44] ++ compactItems rest

/-- The fields of an object on one line. -/
def compactFields : List (Bytes × Json) → Bytes
  | [] => []
  | [(key, value)] => quote key ++ [58] ++ value.compact
  | (key, value) :: rest => quote key ++ [58] ++ value.compact ++ [44] ++ compactFields rest

end

/-- A new line at the given depth. -/
def lineAt (depth : Nat) : Bytes := [10] ++ Bytes.blanks (2 * depth)

mutual

/-- A value over several lines, standing at the given depth. -/
def indented (depth : Nat) : Json → Bytes
  | null => "null".utf8
  | bool b => if b then "true".utf8 else "false".utf8
  | number text => text
  | string text => quote text
  | array [] => [91, 93]
  | array (item :: rest) => [91] ++ indentedItems (depth + 1) (item :: rest) ++ lineAt depth ++ [93]
  | object [] => [123, 125]
  | object (field :: rest) =>
    [123] ++ indentedFields (depth + 1) (field :: rest) ++ lineAt depth ++ [125]

/-- The items of an array, each on a line of its own. -/
def indentedItems (depth : Nat) : List Json → Bytes
  | [] => []
  | [item] => lineAt depth ++ item.indented depth
  | item :: rest => lineAt depth ++ item.indented depth ++ [44] ++ indentedItems depth rest

/-- The fields of an object, each on a line of its own. -/
def indentedFields (depth : Nat) : List (Bytes × Json) → Bytes
  | [] => []
  | [(key, value)] => lineAt depth ++ quote key ++ ": ".utf8 ++ value.indented depth
  | (key, value) :: rest =>
    lineAt depth ++ quote key ++ ": ".utf8 ++ value.indented depth ++ [44] ++
      indentedFields depth rest

end

/-- An indented document with a newline at its end. -/
def document (value : Json) : Bytes := value.indented 0 ++ [10]

/-- An object from field names and values. -/
def record (fields : List (String × Json)) : Json := object (fields.map fun (k, v) => (k.utf8, v))

end Json

end TensorLang
