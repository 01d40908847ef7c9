import TensorLang.Source.Path

/-!
# Where outputs go

Emitted files keep the place that their sources have below a base directory. A source outside that
directory, or any source without one, is written next to the others under its own name.
-/

namespace TensorLang.Build

/-- Does a relative path stay below where it starts? -/
def staysBelow (p : Bytes) : Bool := p != "..".utf8 && !Bytes.startsWith p "../".utf8

/-- The path of a source below the base directory, or its last element. -/
def placeOf (base src : Bytes) : Bytes :=
  let own := Path.base src
  if base.isEmpty then own
  else
    match Path.rel? base src with
    | some r => if staysBelow r then r else own
    | none => own

/-- The path with the ending of emitted files in place of its own. -/
def withOutputEnding (p : Bytes) : Bytes := p.take (p.length - (Path.ext p).length) ++ ".go".utf8

/-- Where the emitted file of a source is written. -/
def outputPath (out base src : Bytes) : Bytes :=
  Path.join [out, withOutputEnding (placeOf base src)]

end TensorLang.Build
