import TensorLang.Hash.Sha256
import TensorLang.Source.Path
import TensorLang.Text.Decimal

/-!
# Targets

A target names what the emitted code calls: the package of the tensor constructors, the package of
the device, the constructors, and whether operators are written between their operands or as method
calls.

* `Target.packageAlias` is the qualifier of every constructor call.
* `Target.isReserved` tells the names that a program must not use.
* `Target.digest` identifies a target; it is the hash of `Target.record`, in which a zero byte
  closes every field.
-/

namespace TensorLang

/-- What emitted code calls. -/
structure Target where
  /-- Import path of the constructors. -/
  package : Bytes
  /-- Qualifier of the constructors; if empty, the last element of `package`. -/
  givenAlias : Bytes
  /-- Import path that `device` needs, possibly none. -/
  backendPackage : Bytes
  /-- Expression for the device. -/
  device : Bytes
  /-- Local name of the device. -/
  deviceVar : Bytes
  zeros : Bytes
  ones : Bytes
  full : Bytes
  arange : Bytes
  arangeStep : Bytes
  /-- `infix` or `methods`. -/
  operators : Bytes
  /-- Method names by operator, sorted by operator. -/
  methods : List (Bytes × Bytes)
  deriving DecidableEq, Inhabited, Repr

namespace Target

/-- Operators stand between their operands. -/
def infixStyle : Bytes := "infix".utf8

/-- Operators are method calls. -/
def methodStyle : Bytes := "methods".utf8

/-- The target of a program that asks for nothing else. -/
def standard : Target where
  package := "github.com/born-ml/born/tensor".utf8
  givenAlias := []
  backendPackage := "github.com/born-ml/born/backend/cpu".utf8
  device := "cpu.New()".utf8
  deviceVar := "backend".utf8
  zeros := "Zeros".utf8
  ones := "Ones".utf8
  full := "Full".utf8
  arange := "Arange".utf8
  arangeStep := "ArangeStep".utf8
  operators := infixStyle
  methods := [("*".utf8, "MatMul".utf8), ("+".utf8, "Add".utf8), ("-".utf8, "Sub".utf8)]

/-- The method for an operator, empty if there is none. -/
def method (t : Target) (op : Bytes) : Bytes := (t.methods.lookup op).getD []

/-- The methods without those of `op`. -/
def eraseMethod (t : Target) (op : Bytes) : Target :=
  { t with methods := t.methods.filter fun m => m.1 != op }

/-- Names the method for `op`, in place of the one it had. -/
def setMethod (t : Target) (op name : Bytes) : Target :=
  let others := (t.eraseMethod op).methods
  { t with methods := others.takeWhile (fun m => Bytes.lt m.1 op) ++ (op, name) ::
      others.dropWhile (fun m => Bytes.lt m.1 op) }

/-- The qualifier of constructor calls. -/
def packageAlias (t : Target) : Bytes :=
  if t.givenAlias.isEmpty then Path.base t.package else t.givenAlias

/-- The qualifier that the backend package has. -/
def backendAlias (t : Target) : Bytes := Path.base t.backendPackage

/-- The names that the emitted code uses itself. -/
def reserved (t : Target) : List Bytes :=
  ["_".utf8, "main".utf8, t.packageAlias, t.deviceVar, "float32".utf8, "float64".utf8, "int32".utf8,
    "int64".utf8, "uint8".utf8, "bool".utf8] ++
  if t.backendPackage.isEmpty then [] else [t.backendAlias]

/-- Does the emitted code use the name itself? -/
def isReserved (t : Target) (name : Bytes) : Bool := t.reserved.contains name

/-- The fields that identify a target, in order. -/
def fields (t : Target) : List Bytes :=
  [t.package, t.packageAlias, t.backendPackage, t.device, t.deviceVar, t.zeros, t.ones, t.full,
    t.arange, t.arangeStep, t.operators] ++ t.methods.flatMap fun m => [m.1, m.2]

/-- The fields in one byte string, each closed by a zero byte. -/
def record (t : Target) : Bytes := t.fields.flatMap fun field => field ++ [0]

/-- The hash that identifies a target. -/
def digest (t : Target) : Bytes := Sha256.hash t.record

end Target

/-- One digest for several, which depends on their order. -/
def combineDigests (digests : List Bytes) : Bytes := Sha256.hash digests.flatten

end TensorLang
