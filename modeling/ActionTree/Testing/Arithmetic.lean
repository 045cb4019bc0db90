import ActionTree.Binary.Basic

/-!
# Arithmetic on numbers with 64 bits

The double of the shell calculates with these. Sums, products and their like are rounded once. An
operation on a value that is no number gives that value, and one without a result gives a value that
is no number, with a minus sign.

* `Binary.add`, `Binary.times`, `Binary.power`, …: the operations.
* `Binary.rest`: what a division leaves, exactly.
* `Binary.whole`: the whole number at or below a magnitude, with its sign.
-/

namespace ActionTree.Binary

/-- The number as one that is calculated with. -/
def toFloat (x : Binary64) : Float :=
  Float.ofBits (UInt64.ofNat x.code ||| (if x.negative then 0x8000000000000000 else 0))

/-- The number that a calculation gives. -/
def ofFloat (x : Float) : Binary64 :=
  if x.isNaN then undefined true
  else
    let bits := x.toBits
    ⟨0x8000000000000000 ≤ bits, (bits &&& 0x7fffffffffffffff).toNat⟩

/-- A calculation with one number. -/
def lift (f : Float → Float) (x : Binary64) : Binary64 :=
  if x.isUndefined then x else ofFloat (f x.toFloat)

/-- A calculation with two numbers. -/
def liftTwo (f : Float → Float → Float) (x y : Binary64) : Binary64 :=
  if x.isUndefined then x else if y.isUndefined then y else ofFloat (f x.toFloat y.toFloat)

/-- The sum of two numbers. -/
def add (x y : Binary64) : Binary64 := liftTwo (· + ·) x y

/-- The difference of two numbers. -/
def minus (x y : Binary64) : Binary64 := liftTwo (· - ·) x y

/-- The product of two numbers. -/
def times (x y : Binary64) : Binary64 := liftTwo (· * ·) x y

/-- The quotient of two numbers. -/
def quotient (x y : Binary64) : Binary64 := liftTwo (· / ·) x y

/-- A number to the power of another one. A power of 1 and the power 0 are 1, whatever the other
number is. -/
def power (x y : Binary64) : Binary64 :=
  let one : Binary64 := ofInt 1
  if y.isZero || x = one then one else liftTwo Float.pow x y

/-- The number with the other sign. -/
def opposite (x : Binary64) : Binary64 := { x with negative := !x.negative }

/-- What is left of a number when another one is taken from it as often as possible; it has the sign
of the first. -/
def rest (x y : Binary64) : Binary64 :=
  if x.isUndefined then x
  else if y.isUndefined then y
  else if !x.isFinite || y.isZero then undefined true
  else if y.isInfinite then x
  else
    let F := Format.double
    ⟨x.negative, F.codeOfUnits (F.units x.code % F.units y.code) 1⟩

/-- Is the magnitude of a number below `2 ^ 63`? -/
def isSmall (x : Binary64) : Bool := x.code < 0x43e0000000000000

/-- The whole number that a number is without what stands behind its point. What is no finite number
has none. -/
def whole (x : Binary64) : Int :=
  if x.isSmall then x.toFloat.toInt64.toInt
  else
    let n := Format.double.units x.code / Nat.pow 2 Format.double.depth
    if x.negative then -(n : Int) else n

/-- Is it a whole number? -/
def isWhole (x : Binary64) : Bool :=
  if x.isSmall then x.toFloat.floor == x.toFloat else x.isFinite

/-- A whole number as a number, without a detour if it is small. -/
def ofWhole (i : Int) : Binary64 :=
  if i.natAbs < 0x20000000000000 then ofFloat (Float.ofInt i) else ofInt i

/-- The number without what stands behind its point. -/
def truncated (x : Binary64) : Binary64 :=
  lift (fun y => if y < 0 then y.ceil else y.floor) x

/-- Is a number less than another one? -/
def less (x y : Binary64) : Bool := !x.isUndefined && !y.isUndefined && x.toFloat < y.toFloat

end ActionTree.Binary
