import ActionTree.Instant.Basic
import ActionTree.Text.Blank
import ActionTree.Text.Decimal

/-!
# Reading instants

`Instant.parse?` reads a date, `T` or one blank, a time with an optional fraction, and `Z`, `UTC` or
an offset. Blanks may stand before every number and separator except the `T`. A year without a sign
has at most four digits, the other numbers at most two.

In the program: how its time library reads them back.
-/

namespace ActionTree.Instant

open Text

/-- At least one digit and at most `width`, as a number. -/
def readNumber (width : Nat) (cs : List Char) : Option (Nat × List Char) :=
  let ds := (cs.take width).takeWhile (·.isDigit)
  if ds.isEmpty then none else some (number ds, cs.drop ds.length)

/-- A number of at most two digits within bounds, after blanks. -/
def readField (least greatest : Nat) (cs : List Char) : Option (Nat × List Char) := do
  let (n, rest) ← readNumber 2 (trimStart cs)
  if least ≤ n ∧ n ≤ greatest then some (n, rest) else none

/-- A year, after blanks. -/
def readYear (cs : List Char) : Option (Int × List Char) :=
  match trimStart cs with
  | '-' :: rest => (readNumber rest.length rest).map fun (n, out) => (-(n : Int), out)
  | '+' :: rest => (readNumber rest.length rest).map fun (n, out) => ((n : Int), out)
  | rest => (readNumber 4 rest).map fun (n, out) => ((n : Int), out)

/-- A separator, after blanks. -/
def readMark (mark : Char) (cs : List Char) : Option (List Char) :=
  match trimStart cs with
  | c :: rest => if c = mark then some rest else none
  | [] => none

/-- An optional fraction of a second, in nanoseconds. Digits behind the ninth do not count. -/
def readFraction : List Char → Option (Nat × List Char)
  | '.' :: rest => do
    let ds := (rest.take 9).takeWhile (·.isDigit)
    if ds.isEmpty then none
    else some (number ds * Nat.pow 10 (9 - ds.length), (rest.drop ds.length).dropWhile (·.isDigit))
  | cs => some (0, cs)

/-- The minutes of an offset: two digits, below 60. -/
def readOffsetMinutes : List Char → Option (Nat × List Char)
  | a :: b :: rest =>
    if '0' ≤ a ∧ a ≤ '5' ∧ b.isDigit then some (number [a, b], rest) else none
  | _ => none

/-- An offset behind its sign: two digits of hours, colons or blanks, two digits of minutes. -/
def readOffsetBody (negative : Bool) : List Char → Option (Int × List Char)
  | a :: b :: rest => do
    if a.isDigit && b.isDigit then
      let (m, out) ← readOffsetMinutes (rest.dropWhile fun c => c == ':' || isBlank c)
      let total : Int := number [a, b] * 60 + m
      return (if negative then -total else total, out)
    else none
  | _ => none

/-- `Z`, `UTC` or an offset in minutes. -/
def readZone (cs : List Char) : Option (Int × List Char) :=
  if lower (cs.take 3) = ['u', 't', 'c'] then some (0, cs.drop 3)
  else match cs with
    | 'Z' :: rest | 'z' :: rest => some (0, rest)
    | '+' :: rest => readOffsetBody false rest
    | '-' :: rest | '\u2212' :: rest => readOffsetBody true rest
    | _ => none

/-- The character between a date and a time. -/
def readJoint : List Char → Option (List Char)
  | c :: rest => if c = 'T' ∨ c = 't' ∨ c = ' ' then some rest else none
  | [] => none

/-- The moment that a text names. -/
def parseChars? (cs : List Char) : Option Instant := do
  let (year, cs) ← readYear cs
  let cs ← readMark '-' cs
  let (month, cs) ← readField 1 12 cs
  let cs ← readMark '-' cs
  let (day, cs) ← readField 1 31 cs
  let cs ← readJoint cs
  let (hour, cs) ← readField 0 23 cs
  let cs ← readMark ':' cs
  let (minute, cs) ← readField 0 59 cs
  let cs ← readMark ':' cs
  let (second, cs) ← readField 0 60 cs
  let (nano, cs) ← readFraction cs
  let (offset, cs) ← readZone (trimStart cs)
  let here : Instant := ⟨year, month, day, hour, minute, second, nano⟩
  let there := here.shift offset
  if (trimStart cs).isEmpty && offset.natAbs < 1440 && here.isValid && there.isValid then some there
  else none

/-- The moment that a text names. -/
def parse? (s : String) : Option Instant := parseChars? s.toList

end ActionTree.Instant
