import ActionTree.Binary.Basic
import ActionTree.Testing.Sh.Arith

/-!
# Numbers with a point

How programs of the shell read and print numbers with a point. A number is read up to where the text
is no number any more. What is printed is the exact value, rounded to a number of places, a half to
the even digit.

* `Point.read?`: the number at the start of a text.
* `Point.fixed`, `Point.scientific`, `Point.general`, `Point.hexadecimal`: the ways to print one.
-/

namespace ActionTree.Sh.Point

/-- A number at the start of a text, the text behind it, and whether it is out of range. -/
structure Found where
  value : Binary64
  rest : Bytes
  outOfRange : Bool

/-- The text behind a word in any case. -/
def behindWord? (word : String) (cs : Bytes) : Option Bytes :=
  if (cs.take word.length).map Char.toLower = word.toList then some (cs.drop word.length) else none

/-- An exponent behind its letter: a number with a sign. -/
def exponent (letter : Char) (cs : Bytes) : Int × Bytes :=
  match cs with
  | c :: rest =>
    if c.toLower = letter then
      let (negative, ds) : Bool × Bytes := match rest with
        | '-' :: ds => (true, ds)
        | '+' :: ds => (false, ds)
        | ds => (false, ds)
      if ds.head?.any Char.isDigit then
        let (n, out) := Arith.digits 10 0 ds
        (if negative then -(n : Int) else n, out)
      else (0, cs)
    else (0, cs)
  | [] => (0, [])

/-- Digits around a point: the number that they are together, how many stand behind the point, and
the text behind them. There is at least one. -/
def digits? (base : Nat) (cs : Bytes) : Option (Nat × Nat × Bytes) :=
  let (n, rest) := Arith.digits base 0 cs
  let before := cs.length - rest.length
  match rest with
  | '.' :: more =>
    let (m, out) := Arith.digits base n more
    let places := more.length - out.length
    if before + places = 0 then none else some (m, places, out)
  | rest => if before = 0 then none else some (n, 0, rest)

/-- Is a number that is not 0 too small to be exact? -/
def isTiny (n : Nat) (x : Binary64) : Bool :=
  n ≠ 0 && Format.double.units x.code < Nat.pow 2 Format.double.fractionBits

/-- The number at the start of a text without a sign. -/
def unsigned? (negative : Bool) (cs : Bytes) : Option Found :=
  let decimal : Option Found := (digits? 10 cs).map fun (n, places, rest) =>
    let (e, out) := exponent 'e' rest
    let shift := e - places
    let x : Binary64 :=
      if shift < -(cs.length + 400 : Int) then .zero negative
      else .nearestTen negative n shift
    ⟨x, out, x.isInfinite || isTiny n x⟩
  match behindWord? "infinity" cs, behindWord? "inf" cs, behindWord? "nan" cs with
  | some rest, _, _ | _, some rest, _ => some ⟨.infinite negative, rest, false⟩
  | _, _, some rest =>
    let inner := (rest.drop 1).dropWhile isNameChar
    let out := if rest.head? = some '(' && inner.head? = some ')' then inner.drop 1 else rest
    some ⟨.undefined negative, out, false⟩
  | none, none, none =>
    match cs with
    | '0' :: x :: more =>
      if x = 'x' || x = 'X' then
        match digits? 16 more with
        | some (n, places, rest) =>
          let (e, out) := exponent 'p' rest
          let shift := e - 4 * places
          let x : Binary64 :=
            if n = 0 || shift < -(4 * cs.length + 1200 : Int) then .zero negative
            else if 1100 < shift then .infinite negative
            else if 0 ≤ shift then .ofRatio negative (n * Nat.pow 2 shift.toNat) 1
            else .ofRatio negative n (Nat.pow 2 shift.natAbs)
          some ⟨x, out, x.isInfinite || isTiny n x⟩
        | none => decimal
      else decimal
    | _ => decimal

/-- The number at the start of a text, perhaps behind blanks and with a sign. -/
def read? (cs : Bytes) : Option Found :=
  match cs.dropWhile Arith.isSpace with
  | '-' :: rest => unsigned? true rest
  | '+' :: rest => unsigned? false rest
  | rest => unsigned? false rest

/-! ## Printing -/

/-- Digits with a point in front of the last ones. -/
def withPoint (alternate : Bool) (places : Nat) (digits : Bytes) : Bytes :=
  let digits := List.replicate (places + 1 - digits.length) '0' ++ digits
  let whole := digits.take (digits.length - places)
  if places = 0 then (if alternate then whole ++ ['.'] else whole)
  else whole ++ '.' :: digits.drop (digits.length - places)

/-- A quotient with so many places behind the point. -/
def fixedRatio (alternate : Bool) (places num den : Nat) : Bytes :=
  withPoint alternate places
    (Nat.toDigits 10 (ActionTree.Format.divideToEven (num * Nat.pow 10 places) den))

/-- The magnitude of a number as a quotient. -/
def ratio (x : Binary64) : Nat × Nat :=
  (Format.double.units x.code, Nat.pow 2 Format.double.depth)

/-- A number with so many places behind the point. -/
def fixed (alternate : Bool) (places : Nat) (x : Binary64) : Bytes :=
  fixedRatio alternate places (ratio x).1 (ratio x).2

/-- A whole number times a power of ten, over a whole number, rounded. -/
def scaled (num den : Nat) (k : Int) : Nat :=
  if 0 ≤ k then ActionTree.Format.divideToEven (num * Nat.pow 10 k.toNat) den
  else ActionTree.Format.divideToEven num (den * Nat.pow 10 k.natAbs)

/-- The exponent of the leading digit of a quotient that is not 0. -/
def leading (num den : Nat) : Int :=
  if den ≤ num then ((Nat.toDigits 10 (num / den)).length : Int) - 1
  else -(((List.range 400).find? fun k => den ≤ num * Nat.pow 10 k).getD 0 : Nat)

/-- So many digits and one more, as a number, and the exponent of the first of them. -/
def rounded (places : Nat) (x : Binary64) : Nat × Int :=
  let (num, den) := ratio x
  if num = 0 then (0, 0)
  else
    let e := leading num den
    let n := scaled num den (places - e)
    if Nat.pow 10 (places + 1) ≤ n then (n / 10, e + 1) else (n, e)

/-- A signed exponent of at least so many digits. -/
def exponentText (width : Nat) (e : Int) : Bytes :=
  let ds := Nat.toDigits 10 e.natAbs
  (if e < 0 then '-' else '+') :: (List.replicate (width - ds.length) '0' ++ ds)

/-- A number with one digit before the point, so many behind it, and an exponent. -/
def scientific (alternate : Bool) (places : Nat) (x : Binary64) : Bytes :=
  let (n, e) := rounded places x
  withPoint alternate places (Nat.toDigits 10 n) ++ 'e' :: exponentText 2 e

/-- A text with a point without the zeros at its end, nor a point there. -/
def withoutZeros (cs : Bytes) : Bytes :=
  if cs.contains '.' then
    match cs.reverse.dropWhile (· = '0') with
    | '.' :: rest => rest.reverse
    | rest => rest.reverse
  else cs

/-- A number with so many digits, without an exponent unless that is small or large. -/
def general (alternate : Bool) (precision : Nat) (x : Binary64) : Bytes :=
  let p := max precision 1
  let (n, e) := rounded (p - 1) x
  let trim (cs : Bytes) : Bytes := if alternate then cs else withoutZeros cs
  if -4 ≤ e && e < p then trim (fixed alternate ((p : Int) - 1 - e).toNat x)
  else trim (withPoint alternate (p - 1) (Nat.toDigits 10 n)) ++ 'e' :: exponentText 2 e

/-- A number with hexadecimal digits, all of them or so many, and an exponent of two. -/
def hexadecimal (alternate : Bool) (precision : Option Nat) (x : Binary64) : Bytes :=
  let fraction := x.code % Nat.pow 2 52
  let stored := x.code / Nat.pow 2 52
  let m := if stored = 0 then fraction else Nat.pow 2 52 + fraction
  let e : Int := if x.code = 0 then 0 else (max stored 1 : Nat) - (1023 : Int)
  let places := precision.getD 13
  let n :=
    if places < 13 then ActionTree.Format.divideToEven m (Nat.pow 16 (13 - places))
    else m * Nat.pow 16 (places - 13)
  let text := withPoint alternate places (Nat.toDigits 16 n)
  let text := if precision.isNone then withoutZeros text else text
  '0' :: 'x' :: text ++ 'p' :: exponentText 1 e

end ActionTree.Sh.Point
