import ActionTree.Testing.Sh.Scan.Value

/-!
# Formatted output of scanning programs

A format is a text with conversions; each of them prints a value.

* `Layout.print`: what a format prints for some values.
-/

namespace ActionTree.Sh.Scan.Layout

/-- Why a format cannot be printed. -/
inductive Fault where
  | noArgument
  /-- There is no such conversion; its number is given. -/
  | improper (n : Nat)

/-- What is said of a format that cannot be printed. -/
def Fault.message (name : String) (format : Bytes) : Fault → Bytes
  | .noArgument =>
    ("not enough arguments passed to " ++ name ++ "(\"").toList ++ format ++ "\")".toList
  | .improper n => "improper conversion(number ".toList ++ decimal n
      ++ (") in " ++ name ++ "(\"").toList ++ format ++ "\")".toList

/-- A width or a precision: digits, or a star for the next value. There is none if a value is
missing. -/
def size? (args : List Value) : Bytes → Option (Int × List Value × Bytes)
  | '*' :: rest =>
    match args with
    | v :: args => some (v.toNumber.whole, args, rest)
    | [] => none
  | cs => some (Text.number (cs.takeWhile Char.isDigit), args, cs.dropWhile Char.isDigit)

/-- The whole number that a value is converted as by `d`, `i` and the conversions without a sign.
What is out of range is the nearest number in range, and what is no number is the least one; `d`
also takes the numbers that only fit without a sign, and without a sign a number below them all
counts as one. -/
def wholeOf (kind : Char) (v : Value) : Int :=
  let x := v.toNumber
  let above : Int := if kind = 'i' then Arith.greatest else wholeBound - 1
  let signed := kind = 'd' || kind = 'i'
  let below : Int := if signed then -Arith.greatest else 1
  if x.isUndefined then Arith.least
  else if x.isInfinite then (if x.negative then below else above)
  else
    let i := x.whole
    if i ≤ -wholeBound then below
    else if i < Arith.least then (if signed then -Arith.greatest else Arith.least)
    else min i above

/-- The character that a value is converted as. A text that looks like a number may count as one. -/
def charOf (numeric : Bool) (v : Value) : Char :=
  let v : Value := match numeric, v with
    | true, .text cs => .given cs
    | _, v => v
  match v.settled with
  | .number x => byteChar (x.whole % 256).toNat
  | .text cs | .given cs => cs.headD '\x00'
  | .unset => '\x00'

/-- A value as it is converted, if there is such a conversion. -/
def converted? (f : NumberFormat) (numeric : Bool) (c : Format.Conversion) (isLong : Bool)
    (v : Value) : Option Bytes :=
  if "dioxXu".toList.contains c.kind then
    let i := wholeOf c.kind v
    some (if c.kind = 'd' || c.kind = 'i' then
      Format.padSigned c (c.zero && c.precision.isNone) (Format.signOf c (i < 0))
        (Format.wholeDigits c 10 i.natAbs)
    else Format.wholeText c i)
  else if isLong then none
  else if "eEfgG".toList.contains c.kind then some (Format.pointText c v.toNumber)
  else if c.kind = 'c' then some (pad c.left c.width (Format.cut c [charOf numeric v]))
  else if c.kind = 's' then some (pad c.left c.width (Format.cut c (v.toText f)))
  else none

/-- What a format that is at most so long prints for some values, behind printed text in reverse;
so many conversions came before. -/
def printOnto (f : NumberFormat) (numeric : Bool) :
    Nat → Nat → Bytes → List Value → Bytes → Bytes × Option Fault
  | 0, _, _, _, done => (done.reverse, none)
  | fuel + 1, n, cs, args, done =>
    match cs with
    | [] => (done.reverse, none)
    | '%' :: '%' :: rest => printOnto f numeric fuel n rest args ('%' :: done)
    | '%' :: rest =>
      let missing : Bytes × Option Fault := (done.reverse, some .noArgument)
      let (c, rest) := Format.flags (.plain ' ') rest
      match size? args rest with
      | none => missing
      | some (width, args, rest) =>
        let c := { c with width := width.natAbs, left := c.left || width < 0 }
        let precise : Option (Option Nat × List Value × Bytes) := match rest with
          | '.' :: rest => (size? args rest).map fun (p, args, rest) =>
            (if p < 0 then none else some p.toNat, args, rest)
          | rest => some (none, args, rest)
        match precise, precise.map (·.2.1) with
        | some (precision, _, rest), some (v :: args) =>
          let isLong := rest.head?.any fun k => k = 'h' || k = 'l'
          let rest := rest.dropWhile fun k => k = 'h' || k = 'l'
          let c := { c with precision := precision, kind := rest.headD ' ' }
          match converted? f numeric c isLong v with
          | some text => printOnto f numeric fuel (n + 1) rest.tail args (text.reverseAux done)
          | none => (done.reverse, some (.improper (n + 1)))
        | _, _ => missing
    | c :: rest => printOnto f numeric fuel n rest args (c :: done)

/-- What a format prints for some values, up to where it cannot be printed. -/
def print (f : NumberFormat) (numeric : Bool) (format : Bytes) (args : List Value) :
    Bytes × Option Fault :=
  printOnto f numeric (format.length + 1) 0 format args []

end ActionTree.Sh.Scan.Layout
