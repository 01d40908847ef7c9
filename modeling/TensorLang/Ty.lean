import TensorLang.DType

/-!
# Types

What is known about a value: a tensor with a fixed shape or a scalar, each with an element type.
Dimensions are 64-bit words, and products of dimensions wrap.
-/

namespace TensorLang

/-- The dimensions of a tensor, outermost first. -/
abbrev Shape := List Int64

namespace Shape

/-- The number of elements as a 64-bit word; one for no dimensions. -/
def numElements (shape : Shape) : Int64 := shape.foldl (· * ·) 1

/-- The dimensions in decimal, with `sep` between them, inside square brackets. -/
def text (sep : Bytes) (shape : Shape) : Bytes :=
  "[".utf8 ++ Bytes.joinWith sep (shape.map fun d => Decimal.ofInt d.toInt) ++ "]".utf8

end Shape

/-- The type of a value. A scalar differs from a tensor without dimensions. -/
inductive Ty where
  | tensor (shape : Shape) (dtype : DType)
  | scalar (dtype : DType)
  deriving DecidableEq, Inhabited, Repr

namespace Ty

/-- The element type. -/
def dtype : Ty → DType
  | tensor _ dt => dt
  | scalar dt => dt

/-- The number of dimensions of a tensor. -/
def rank? : Ty → Option Nat
  | tensor shape _ => some shape.length
  | scalar _ => none

/-- `tensor[2 3]<float32>` or `scalar<float32>`. -/
def text : Ty → Bytes
  | tensor shape dt => "tensor".utf8 ++ shape.text " ".utf8 ++ "<".utf8 ++ dt.name ++ ">".utf8
  | scalar dt => "scalar<".utf8 ++ dt.name ++ ">".utf8

end Ty

end TensorLang
