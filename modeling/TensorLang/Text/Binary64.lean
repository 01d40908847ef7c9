import TensorLang.Text.Decimal

/-!
# Numbers in binary floating point

Times are reported in milliseconds as numbers with 53 significant bits. A positive number is
`mantissa * 2 ^ exponent`, and everything here is exact arithmetic on those two.

* `Binary64.ofRatio` is the nearest number to a fraction, ties to an even mantissa.
* `Binary64.fixed` writes a number with a fixed count of decimals.
* `Binary64.shortest` writes the fewest digits that read back as the same number.

The numbers that occur are far from the ends of the exponent range, which is not modelled.
-/

namespace TensorLang

/-- `mantissa * 2 ^ exponent`. -/
structure Binary64 where
  mantissa : Nat
  exponent : Int
  deriving DecidableEq, Inhabited, Repr

namespace Binary64

/-- The count of significant bits. -/
def precision : Nat := 53

/-- `n / d` to the nearest natural number, ties to even. -/
def roundDiv (n d : Nat) : Nat :=
  let q := n / d
  let r := n % d
  if 2 * r < d then q else if d < 2 * r then q + 1 else q + q % 2

/-- The fraction that the number stands for. -/
def ratio (x : Binary64) : Nat × Nat :=
  if 0 ≤ x.exponent then (x.mantissa * Nat.pow 2 x.exponent.toNat, 1)
  else (x.mantissa, Nat.pow 2 (-x.exponent).toNat)

/-- The nearest number to `n / d`. -/
def ofRatio (n d : Nat) : Binary64 :=
  if n = 0 then ⟨0, 0⟩
  else
    let guess : Int := (n.log2 : Int) - (d.log2 : Int) - precision
    let at' (e : Int) : Nat × Nat :=
      if 0 ≤ e then (n, d * Nat.pow 2 e.toNat) else (n * Nat.pow 2 (-e).toNat, d)
    let (n₁, d₁) := at' guess
    let e := if Nat.pow 2 precision ≤ n₁ / d₁ then guess + 1 else guess
    let (n₂, d₂) := at' e
    let m := roundDiv n₂ d₂
    if m = Nat.pow 2 precision then ⟨Nat.pow 2 (precision - 1), e + 1⟩ else ⟨m, e⟩

/-- The nearest number to the quotient of two numbers that are themselves rounded first. -/
def quotient (n d : Nat) : Binary64 :=
  let (a, b) := (ofRatio n 1).ratio
  let (c, e) := (ofRatio d 1).ratio
  ofRatio (a * e) (b * c)

/-- The number with a fixed count of decimals, ties to an even last digit. -/
def fixed (places : Nat) (x : Binary64) : Bytes :=
  let (n, d) := x.ratio
  let scaled := roundDiv (n * Nat.pow 10 places) d
  Decimal.ofNat (scaled / Nat.pow 10 places) ++
    (if places = 0 then [] else [46] ++ Decimal.padded places (scaled % Nat.pow 10 places))

/-- `digits * 10 ^ scale` without an exponent and without needless zeros. -/
def positional (digits : Nat) (scale : Int) : Bytes :=
  if 0 ≤ scale then Decimal.ofNat (digits * Nat.pow 10 scale.toNat)
  else
    let places := (-scale).toNat
    let fraction := Bytes.trimRight (· == 48) (Decimal.padded places (digits % Nat.pow 10 places))
    Decimal.ofNat (digits / Nat.pow 10 places) ++
      (if fraction.isEmpty then [] else [46] ++ fraction)

/-- The neighbours of `x` among the multiples of `10 ^ scale` that are read as `x`, the nearer one
first. -/
def candidates (x : Binary64) (scale : Int) : List Nat :=
  let (n, d) := x.ratio
  let (n, d) :=
    if 0 ≤ scale then (n, d * Nat.pow 10 scale.toNat) else (n * Nat.pow 10 (-scale).toNat, d)
  let below := n / d
  let near := if 2 * (n % d) ≤ d then [below, below + 1] else [below + 1, below]
  near.filter fun c =>
    (if 0 ≤ scale then ofRatio (c * Nat.pow 10 scale.toNat) 1
      else ofRatio c (Nat.pow 10 (-scale).toNat)) = x

/-- Looks for the coarsest grid of decimals with a number that is read as `x`. -/
def shortestFrom (x : Binary64) : (fuel : Nat) → (scale : Int) → Bytes
  | 0, _ => []
  | fuel + 1, scale =>
    match x.candidates scale with
    | c :: _ => positional c scale
    | [] => shortestFrom x fuel (scale - 1)

/-- The fewest digits that read back as the same number, without an exponent. -/
def shortest (x : Binary64) : Bytes :=
  if x.mantissa = 0 then "0".utf8
  else
    let (n, d) := x.ratio
    let magnitude : Int := ((Decimal.ofNat (n / d)).length : Int)
    shortestFrom x 64 magnitude

end Binary64

end TensorLang
