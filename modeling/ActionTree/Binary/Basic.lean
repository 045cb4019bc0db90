/-!
# Binary floating-point numbers

A format has a number of fraction bits and a number of exponent bits. A number of the format is a
sign and a `code`: the place of its magnitude among the magnitudes of the format, in increasing
order. Code 0 is zero, code 1 the least positive number, `F.infinity` infinity, and the codes above
it are no numbers. All arithmetic is exact, in `Nat`, followed by one rounding to nearest, ties to
even.

In the program: the floating-point types of both sizes, and how its JSON reader makes a number of
digits.

* `units`: a magnitude as a multiple of the least positive one, `2 ^ F.leastExponent`.
* `ofRatio`: the number nearest to a quotient.
* `scaleTen`: a whole number times a power of ten, by the rounded steps of a table of powers.
* `narrow`, `widen`: between the two formats.
-/

namespace ActionTree

/-- A binary floating-point format. -/
structure Format where
  /-- Fraction bits that are stored. -/
  fractionBits : Nat
  /-- Exponent bits. -/
  exponentBits : Nat
  deriving DecidableEq

namespace Format

/-- The format with 64 bits. -/
def double : Format := ⟨52, 11⟩

/-- The format with 32 bits. -/
def single : Format := ⟨23, 8⟩

/-- The least positive number of the format is `1 / 2 ^ F.depth`. -/
def depth (F : Format) : Nat := Nat.pow 2 (F.exponentBits - 1) - 2 + F.fractionBits

/-- The code of infinity. -/
def infinity (F : Format) : Nat := (Nat.pow 2 F.exponentBits - 1) * Nat.pow 2 F.fractionBits

/-- The magnitude of a code, in units of the least positive number. -/
def units (F : Format) (code : Nat) : Nat :=
  let exponent := code / Nat.pow 2 F.fractionBits
  let fraction := code % Nat.pow 2 F.fractionBits
  if exponent = 0 then fraction
  else (Nat.pow 2 F.fractionBits + fraction) * Nat.pow 2 (exponent - 1)

/-- `num / den` to the nearest whole number, a half to the even one. -/
def divideToEven (num den : Nat) : Nat :=
  let q := num / den
  let r := num % den
  if 2 * r < den then q else if den < 2 * r then q + 1 else q + q % 2

/-- The code nearest to `num / den` units; everything too large is infinity. -/
def codeOfUnits (F : Format) (num den : Nat) : Nat :=
  let shift := Nat.log2 (num / den) - F.fractionBits
  min (shift * Nat.pow 2 F.fractionBits + divideToEven num (den * Nat.pow 2 shift)) F.infinity

end Format

/-- A number of a binary format, infinities and values that are no numbers included. -/
structure Binary (F : Format) where
  /-- Has it a minus sign? -/
  negative : Bool
  /-- The place of its magnitude in increasing order. -/
  code : Nat
  deriving DecidableEq

/-- A number with 64 bits. -/
abbrev Binary64 := Binary .double

/-- A number with 32 bits. -/
abbrev Binary32 := Binary .single

namespace Binary

variable {F G : Format}

/-- Zero, with a sign. -/
def zero (negative : Bool) : Binary F := ⟨negative, 0⟩

/-- Infinity, with a sign. -/
def infinite (negative : Bool) : Binary F := ⟨negative, F.infinity⟩

/-- A value that is no number. -/
def undefined (negative : Bool) : Binary F :=
  ⟨negative, F.infinity + Nat.pow 2 (F.fractionBits - 1)⟩

/-- Is it below infinity in magnitude? -/
def isFinite (x : Binary F) : Bool := x.code < F.infinity

/-- Is it an infinity? -/
def isInfinite (x : Binary F) : Bool := x.code == F.infinity

/-- Is it one of the values that are no numbers? -/
def isUndefined (x : Binary F) : Bool := F.infinity < x.code

/-- Is it a zero of either sign? -/
def isZero (x : Binary F) : Bool := x.code == 0

/-- The number nearest to `num / den`. -/
def ofRatio (negative : Bool) (num den : Nat) : Binary F :=
  ⟨negative, F.codeOfUnits (num * Nat.pow 2 F.depth) den⟩

/-- The number nearest to a whole number. -/
def ofInt (i : Int) : Binary F := ofRatio (i < 0) i.natAbs 1

/-- A finite number in another format, rounded; infinities and undefined values keep their kind. -/
def convert (x : Binary F) : Binary G :=
  if x.isFinite then ofRatio x.negative (F.units x.code) (Nat.pow 2 F.depth)
  else if x.isInfinite then infinite x.negative
  else undefined x.negative

/-- The number with 32 bits nearest to one with 64. -/
def narrow (x : Binary64) : Binary32 := x.convert

/-- A number with 32 bits as the equal one with 64. -/
def widen (x : Binary32) : Binary64 := x.convert

/-- Is it between zero and a whole number, both included? Minus zero is zero. -/
def between0And (x : Binary F) (bound : Nat) : Bool :=
  !x.isUndefined && (x.isZero || !x.negative) && F.units x.code ≤ bound * Nat.pow 2 F.depth
    && x.isFinite

/-- `x · 10 ^ k` for `k ≤ 308`, rounded once more after the power itself. -/
def timesTen (x : Binary64) (k : Nat) : Binary64 :=
  let p : Binary64 := ofRatio false (Nat.pow 10 k) 1
  ofRatio x.negative (Format.double.units x.code * Format.double.units p.code)
    (Nat.pow 2 (2 * Format.double.depth))

/-- `x / 10 ^ k` for `k ≤ 308`, rounded once more after the power itself. -/
def overTen (x : Binary64) (k : Nat) : Binary64 :=
  let p : Binary64 := ofRatio false (Nat.pow 10 k) 1
  ofRatio x.negative (Format.double.units x.code) (Format.double.units p.code)

/-- The largest power of ten that is a finite number with 64 bits. -/
def greatestTen : Nat := 308

/-- `whole · 10 ^ exponent`, with the whole number rounded first. A power beyond the greatest one is
too large, and a division by it is done in steps of the greatest power until nothing is left. There
is no result if the number is too large. -/
def scaleTen (negative : Bool) (whole : Nat) (exponent : Int) : Option Binary64 :=
  let start : Binary64 := ofRatio negative whole 1
  if 0 ≤ exponent then
    if exponent ≤ greatestTen then
      let x := start.timesTen exponent.toNat
      if x.isFinite then some x else none
    else if start.isZero then some start else none
  else some (down start exponent.natAbs 3)
where
  /-- Division by a power of ten, in steps. Three steps bring every number to zero. -/
  down (x : Binary64) (k : Nat) : Nat → Binary64
    | 0 => zero negative
    | steps + 1 =>
      if k ≤ greatestTen then x.overTen k
      else if x.isZero then x
      else down (x.overTen greatestTen) (k - greatestTen) steps

/-- The number nearest to `whole · 10 ^ exponent`. -/
def nearestTen (negative : Bool) (whole : Nat) (exponent : Int) : Binary64 :=
  if 0 ≤ exponent then
    if whole = 0 then zero negative
    else if exponent ≤ greatestTen then ofRatio negative (whole * Nat.pow 10 exponent.toNat) 1
    else infinite negative
  else ofRatio negative whole (Nat.pow 10 exponent.natAbs)

end Binary

end ActionTree
