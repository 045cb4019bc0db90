import ActionTree.Testing.Arithmetic
import ActionTree.Testing.Sh.Format

/-!
# Values of scanning programs

A value is a number or a text, and each counts as the other where it is needed. A text from outside
that looks like a number is compared as one.

* `Value.number`, `Value.text`: a value as the one or the other.
* `Value.holds`: does it count as true?
* `Value.compare`: how two values are ordered.
-/

namespace ActionTree.Sh.Scan

/-- A value of a scanning program. -/
inductive Value where
  /-- Nothing was assigned yet. -/
  | unset
  | number (x : Binary64)
  | text (cs : Bytes)
  /-- A text from outside: it may be meant as a number. -/
  | given (cs : Bytes)

instance : Inhabited Value := ⟨.unset⟩

/-! ## Numbers and texts -/

/-- The number at the start of a text, or 0. -/
def numberOf (cs : Bytes) : Binary64 :=
  if cs.length < 16 && !cs.isEmpty && cs.all Char.isDigit then .ofWhole (Text.number cs)
  else ((Point.read? cs).map (·.value)).getD (.zero false)

/-- White space in what is scanned. -/
def isBlank (c : Char) : Bool := c = ' ' || c = '\t' || c = '\n'

/-- The number that a text is, if it looks like one, perhaps with blanks around it. It starts with a
digit, a sign or a point, ends with a digit or a point, and is in range. -/
def wholeNumber? (cs : Bytes) : Option Binary64 :=
  let body := ((cs.dropWhile isBlank).reverse.dropWhile isBlank).reverse
  match body, body.getLast? with
  | first :: _, some last =>
    if (first.isDigit || "+-.".toList.contains first) && (last.isDigit || last = '.') then
      match Point.read? body with
      | some ⟨x, [], false⟩ => some x
      | _ => none
    else none
  | _, _ => none

/-- The whole numbers that are printed with all their digits are below this number. -/
def wholeBound : Nat := 18446744073709551616

/-- A number that is printed with all its digits. -/
def digits? (x : Binary64) : Option Bytes :=
  if x.isWhole then
    let i := x.whole
    if Arith.least ≤ i && i ≤ wholeBound then some (decimal (min i (wholeBound - 1))) else none
  else none

/-- How a number with a point is printed: text around one conversion. -/
structure NumberFormat where
  before : Bytes
  conversion : Format.Conversion
  after : Bytes

namespace NumberFormat

/-- Six digits, as many as are needed. -/
def usual : NumberFormat := ⟨[], { Format.Conversion.plain 'g' with precision := some 6 }, []⟩

/-- The format that a text is: it has one conversion of a number. -/
def ofText? (cs : Bytes) : Option NumberFormat :=
  let before := cs.takeWhile (· ≠ '%')
  match cs.drop before.length with
  | '%' :: rest =>
    let (c, _, rest) := Format.conversion ⟨[], [], [], false⟩ rest
    match rest with
    | k :: after =>
      if "eEfgGdioxXu".toList.contains k && !after.contains '%' then some ⟨before, c, after⟩
      else none
    | [] => none
  | _ => none

/-- A number as it is printed. -/
def print (f : NumberFormat) (x : Binary64) : Bytes :=
  let body :=
    if "eEfgG".toList.contains f.conversion.kind then Format.pointText f.conversion x
    else Format.wholeText f.conversion x.whole
  f.before ++ body ++ f.after

/-- A number as text: whole numbers have all their digits. -/
def textOf (f : NumberFormat) (x : Binary64) : Bytes := (digits? x).getD (f.print x)

end NumberFormat

namespace Value

/-- The value as a number. -/
def toNumber : Value → Binary64
  | .unset => .zero false
  | .number x => x
  | .text cs | .given cs => numberOf cs

/-- The value as a text. -/
def toText (f : NumberFormat) : Value → Bytes
  | .unset => []
  | .number x => f.textOf x
  | .text cs | .given cs => cs

/-- A whole number as a value. -/
def ofInt (i : Int) : Value := .number (.ofWhole i)

/-- A truth value: 1 or 0. -/
def ofBool (b : Bool) : Value := if b then ofInt 1 else ofInt 0

/-- A text from outside that looks like a number, as that number; all else stays as it is. -/
def settled : Value → Value
  | .given cs => match wholeNumber? cs with
    | some x => .number x
    | none => .text cs
  | v => v

/-- Does the value count as true? A number that is not 0 does, and so does a text that is not
empty. -/
def holds (v : Value) : Bool :=
  match v.settled with
  | .number x => !x.isZero
  | .text cs | .given cs => !cs.isEmpty
  | .unset => false

/-- How two values are ordered: as numbers if both are, and as texts otherwise. What is no number is
equal to every number. -/
def compare (f : NumberFormat) (a b : Value) : Ordering :=
  let asTexts (x y : Bytes) : Ordering := if inOrder x y then (if x = y then .eq else .lt) else .gt
  match a.settled, b.settled with
  | .text x, _ => asTexts x (b.toText f)
  | _, .text y => asTexts (a.toText f) y
  | x, y =>
    let x := x.toNumber
    let y := y.toNumber
    if x.less y then .lt else if y.less x then .gt else .eq

end Value

end ActionTree.Sh.Scan
