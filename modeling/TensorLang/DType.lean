import TensorLang.Text.LetterCase
import TensorLang.Text.Quoted

/-!
# Element types

The element type of a tensor or scalar. Six types have names; any other number can stand in a syntax
tree that was not parsed, and is shown as `unknown`.

* `DType.ofName?` reads an annotation in any letter case, short or long.
* `DType.shortName` is the annotation that the formatter writes.
* `DType.name` is the long name, which is also the element type's name in the generated code.
-/

namespace TensorLang

/-- Element types. -/
inductive DType where
  | float32
  | float64
  | int32
  | int64
  | uint8
  | bool
  /-- A number that names no element type. -/
  | other (code : Int)
  deriving DecidableEq, Inhabited, Repr

namespace DType

/-- The type of a fill tensor without annotation. -/
def ofFill : DType := float32

/-- The type of every range tensor. -/
def ofRange : DType := int64

/-- The type with the given number. -/
def ofCode (n : Int) : DType :=
  match n with
  | 0 => float32
  | 1 => float64
  | 2 => int32
  | 3 => int64
  | 4 => uint8
  | 5 => bool
  | n => other n

/-- The number of a type. -/
def code : DType → Int
  | float32 => 0
  | float64 => 1
  | int32 => 2
  | int64 => 3
  | uint8 => 4
  | bool => 5
  | other n => n

/-- The long name. -/
def name : DType → Bytes
  | float32 => "float32".utf8
  | float64 => "float64".utf8
  | int32 => "int32".utf8
  | int64 => "int64".utf8
  | uint8 => "uint8".utf8
  | bool => "bool".utf8
  | other _ => "unknown".utf8

/-- The annotation that the formatter writes. -/
def shortName : DType → Bytes
  | float32 => "f32".utf8
  | float64 => "f64".utf8
  | int32 => "i32".utf8
  | int64 => "i64".utf8
  | uint8 => "u8".utf8
  | dt => dt.name

/-- The spellings that an annotation may have, in lower case. -/
def spellings : List (Bytes × DType) :=
  [("f32".utf8, float32), ("float32".utf8, float32), ("f64".utf8, float64),
    ("float64".utf8, float64), ("i32".utf8, int32), ("int32".utf8, int32), ("i64".utf8, int64),
    ("int64".utf8, int64), ("u8".utf8, uint8), ("uint8".utf8, uint8), ("bool".utf8, bool)]

/-- Reads an annotation. -/
def ofName? (word : Bytes) : Option DType :=
  spellings.lookup (Text.lower word)

/-- What is said about a word that is no annotation. -/
def unknownMessage (word : Bytes) : Bytes := "unknown data type ".utf8 ++ Quoted.string word

end DType

end TensorLang
