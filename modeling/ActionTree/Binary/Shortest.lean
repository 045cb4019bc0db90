import ActionTree.Binary.Basic

/-!
# The shortest decimal of a binary number

A finite binary number stands for every real that rounds to it. `shortest` picks, among the decimals
in that interval, one with the fewest digits, and of those the nearest to the number; of two equally
near ones the even one. `Layout` says how digits and exponent are written.

In the program: how floating-point numbers are written in JSON, in TOML and on the screen.

* `Decimal`: digits without zeros at either end, and the exponent of the first digit.
* `shortest`: for 1, 2, … digits the two neighbours of the number on the decimal grid are tried.
* `Layout.text`: the text of a finite number.
-/

namespace ActionTree

/-- A positive decimal: `0.d₁d₂… · 10 ^ (exponent + 1)`, that is, `d₁` stands for
`d₁ · 10 ^ exponent`. -/
structure Decimal where
  /-- The digits, the first one most significant. -/
  digits : List Char
  /-- The exponent of the first digit. -/
  exponent : Int
  deriving DecidableEq

namespace Binary

variable {F : Format}

/-- The number of decimal digits of `n`; zero has none. -/
def decimalWidth (n : Nat) : Nat := if n = 0 then 0 else (Nat.toDigits 10 n).length

/-- The decimal exponent of the first digit of `num / den`, a positive quotient. -/
def firstExponent (num den : Nat) : Int :=
  if den ≤ num then (decimalWidth (num / den) : Int) - 1
  else -(decimalWidth ((den - 1) / num) : Int)

/-- The two bounds of the reals that round to a code, in half units, and whether they count. -/
def bounds (F : Format) (code : Nat) : Nat × Nat × Bool :=
  (F.units (code - 1) + F.units code, F.units code + F.units (code + 1), code % 2 == 0)

/-- The point with `n` digits nearest to `num / den`, if one of the two neighbours on the grid lies
in the interval given in the same units. -/
def gridPoint (num low high : Nat) (closed : Bool) (den n : Nat) (first : Int) : Option Nat :=
  let step : Int := first - (n : Int) + 1
  let up := Nat.pow 10 (-step).toNat
  let grid := den * Nat.pow 10 step.toNat
  let d := num * up / grid
  let inside (k : Nat) : Bool :=
    if closed then low * up ≤ k * grid && k * grid ≤ high * up
    else low * up < k * grid && k * grid < high * up
  let below := num * up - d * grid
  let above := (d + 1) * grid - num * up
  match inside d, inside (d + 1) with
  | true, true =>
    if below < above then some d else if above < below then some (d + 1)
    else some (d + d % 2)
  | true, false => some d
  | false, true => some (d + 1)
  | false, false => none

/-- Digits without the zeros at their end. -/
def stripZeros (ds : List Char) : List Char := (ds.reverse.dropWhile (· == '0')).reverse

/-- The shortest decimal of a positive finite number. Seventeen digits always suffice. -/
def shortest (x : Binary F) : Decimal :=
  let num := 2 * F.units x.code
  let den := Nat.pow 2 (F.depth + 1)
  let (low, high, closed) := bounds F x.code
  let first := firstExponent num den
  let found := (List.range 17).findSome? fun i =>
    (gridPoint num low high closed den (i + 1) first).map fun d => (i + 1, d)
  let (n, d) := found.getD (1, 0)
  let ds := Nat.toDigits 10 d
  ⟨stripZeros ds, first + ((ds.length : Int) - (n : Int))⟩

end Binary

/-- How a decimal is written. -/
structure Layout where
  /-- The least exponent of the first digit that is written without an exponent. -/
  least : Int
  /-- The greatest exponent of the first digit that is written without an exponent. -/
  greatest : Int
  /-- Is a positive exponent written with a sign? -/
  plus : Bool
  deriving DecidableEq

namespace Layout

/-- A decimal written out, with at least one digit on each side of the point. -/
def plain (d : Decimal) : List Char :=
  if d.exponent < 0 then
    '0' :: '.' :: (List.replicate (d.exponent.natAbs - 1) '0' ++ d.digits)
  else
    let width := d.exponent.toNat + 1
    let whole := d.digits.take width
    let rest := d.digits.drop width
    whole ++ List.replicate (width - whole.length) '0' ++ '.' ::
      (if rest.isEmpty then ['0'] else rest)

/-- A decimal with an exponent: one digit before the point, and no point behind a single digit. -/
def scientific (plus : Bool) (d : Decimal) : List Char :=
  let sign := if d.exponent < 0 then ['-'] else if plus then ['+'] else []
  let tail := 'e' :: sign ++ Nat.toDigits 10 d.exponent.natAbs
  match d.digits with
  | [c] => c :: tail
  | c :: cs => c :: '.' :: cs ++ tail
  | [] => '0' :: tail

/-- The text of a finite number. Zero is `0.0`. -/
def text {F : Format} (l : Layout) (x : Binary F) : List Char :=
  let body :=
    if x.isZero then ['0', '.', '0']
    else
      let d := x.shortest
      if l.least ≤ d.exponent ∧ d.exponent ≤ l.greatest then plain d else scientific l.plus d
  if x.negative then '-' :: body else body

end Layout

end ActionTree
