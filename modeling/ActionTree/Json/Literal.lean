import ActionTree.Document.Basic

/-!
# Number and string literals of JSON

A number literal is read digit by digit into a whole number below `2^64`; digits that would lead
beyond are dropped, those before the point raising the exponent. Without fraction and exponent the
literal is a whole number, if it fits; otherwise it is the whole number scaled by a power of ten
(`Binary.scaleTen`), and a number too large has no value. Minus zero is the floating-point one.

A string literal is read character by character; `\u` escapes give UTF-16 units, and half of a
surrogate pair has no value.

In the program: its JSON reader.

* `Numeral.document`: the value of a number literal.
* `readString`: the content of a string literal and the text behind its closing quote.
-/

namespace ActionTree.Json

/-- The value of a decimal digit. -/
def digitValue (c : Char) : Nat := c.toNat - '0'.toNat

/-- The parts of a number literal. -/
structure Numeral where
  negative : Bool
  /-- The digits before the point. -/
  whole : List Char
  /-- The digits behind the point, if there is one. -/
  fraction : Option (List Char)
  /-- The sign (is it a minus?) and the digits of the exponent, if there is one. -/
  exponent : Option (Bool × List Char)
  deriving DecidableEq

namespace Numeral

/-- Digits appended to a number while it stays below `2^64`, and the digits left over. -/
def absorb (n : Nat) : List Char → Nat × List Char
  | [] => (n, [])
  | c :: cs =>
    if 10 * n + digitValue c < endInt then absorb (10 * n + digitValue c) cs else (n, c :: cs)

/-- The number that digits denote. -/
def digitsValue (cs : List Char) : Nat := cs.foldl (fun n c => 10 * n + digitValue c) 0

/-- The largest exponent that is read as a number: `2^31 - 1`. -/
def greatestExponent : Nat := 2147483647

/-- The floating-point number of a literal. -/
def float? (l : Numeral) : Option Binary64 :=
  let (n, dropped) := absorb 0 l.whole
  let digits := l.fraction.getD []
  let (n, rest) := if l.fraction.isSome then absorb n digits else (n, [])
  let shift : Int := (dropped.length : Int) - (digits.length - rest.length : Nat)
  match l.exponent with
  | none => Binary.scaleTen l.negative n shift
  | some (minus, ds) =>
    let e := digitsValue ds
    if greatestExponent < e then
      if n = 0 ∨ minus then some (.zero l.negative) else none
    else Binary.scaleTen l.negative n (if minus then shift - e else shift + e)

/-- Does the literal have neither a fraction nor an exponent? -/
def isWhole (l : Numeral) : Bool := l.fraction.isNone && l.exponent.isNone

/-- The value of a number literal. -/
def document (l : Numeral) : Document :=
  let n := digitsValue l.whole
  if l.isWhole && !l.negative && n < endInt then .value (.int n)
  else if l.isWhole && l.negative && n ≠ 0 && n ≤ leastInt.natAbs then .value (.int (-n))
  else match l.float? with
    | some x => .value (.float x)
    | none => .invalid

end Numeral

/-- A run of digits and the text behind it. -/
def spanDigits (cs : List Char) : List Char × List Char := cs.span (·.isDigit)

/-- The optional fraction of a number literal. A point without a digit behind it is malformed. -/
def readFraction : List Char → Option (Option (List Char) × List Char)
  | '.' :: cs =>
    let (ds, rest) := spanDigits cs
    if ds.isEmpty then none else some (some ds, rest)
  | cs => some (none, cs)

/-- The digits of an exponent, of which there is at least one. -/
def readExponentDigits (minus : Bool) (cs : List Char) :
    Option (Option (Bool × List Char) × List Char) :=
  let (ds, rest) := spanDigits cs
  if ds.isEmpty then none else some (some (minus, ds), rest)

/-- The optional exponent of a number literal. -/
def readExponent : List Char → Option (Option (Bool × List Char) × List Char)
  | c :: cs =>
    if c = 'e' ∨ c = 'E' then
      match cs with
      | '+' :: rest => readExponentDigits false rest
      | '-' :: rest => readExponentDigits true rest
      | rest => readExponentDigits false rest
    else some (none, c :: cs)
  | [] => some (none, [])

/-- A number literal without its sign. Its whole part has no leading zero. -/
def readUnsigned (negative : Bool) (cs : List Char) : Option (Numeral × List Char) := do
  let (whole, rest) := spanDigits cs
  if whole.isEmpty || (whole.head? == some '0' && 1 < whole.length) then none
  else
    let (fraction, rest) ← readFraction rest
    let (exponent, rest) ← readExponent rest
    return (⟨negative, whole, fraction, exponent⟩, rest)

/-- A number literal and the text behind it. -/
def readNumeral : List Char → Option (Numeral × List Char)
  | '-' :: cs => readUnsigned true cs
  | cs => readUnsigned false cs

/-- The value of a hexadecimal digit. -/
def hexValue? (c : Char) : Option Nat :=
  if c.isDigit then some (c.toNat - '0'.toNat)
  else if 'a' ≤ c ∧ c ≤ 'f' then some (c.toNat - 'a'.toNat + 10)
  else if 'A' ≤ c ∧ c ≤ 'F' then some (c.toNat - 'A'.toNat + 10)
  else none

/-- The UTF-16 unit of four hexadecimal digits. -/
def unit? (a b c d : Char) : Option Nat := do
  return (((← hexValue? a) * 16 + (← hexValue? b)) * 16 + (← hexValue? c)) * 16 + (← hexValue? d)

/-- Is it the first unit of a surrogate pair? -/
def isHighUnit (n : Nat) : Bool := 0xD800 ≤ n && n < 0xDC00

/-- Is it the second unit of a surrogate pair? -/
def isLowUnit (n : Nat) : Bool := 0xDC00 ≤ n && n < 0xE000

/-- The character of a surrogate pair. -/
def pairChar (high low : Nat) : Char :=
  Char.ofNat (0x10000 + (high - 0xD800) * 0x400 + (low - 0xDC00))

/-- The character behind a backslash that stands for one character by itself. -/
def shortEscape? : Char → Option Char
  | '"' => some '"'
  | '\\' => some '\\'
  | '/' => some '/'
  | 'b' => some '\x08'
  | 'f' => some '\x0c'
  | 'n' => some '\n'
  | 'r' => some '\r'
  | 't' => some '\t'
  | _ => none

/-- A piece of a string literal: a character, or a UTF-16 unit that is half of a pair. -/
inductive Piece where
  | char (c : Char)
  | half (unit : Nat)
  deriving DecidableEq

/-- The pieces of a string literal, up to its closing quote, and the text behind it. Control
characters must be escaped. -/
def readPieces : List Char → Option (List Piece × List Char)
  | [] => none
  | '"' :: rest => some ([], rest)
  | '\\' :: 'u' :: a :: b :: c :: d :: rest => do
    let n ← unit? a b c d
    let (ps, out) ← readPieces rest
    return ((if isHighUnit n || isLowUnit n then .half n else .char (Char.ofNat n)) :: ps, out)
  | '\\' :: e :: rest => do
    let c ← shortEscape? e
    let (ps, out) ← readPieces rest
    return (.char c :: ps, out)
  | c :: rest =>
    if c.toNat < 32 || c == '\\' then none
    else do
      let (ps, out) ← readPieces rest
      return (.char c :: ps, out)

/-- The text of the pieces of a string, if every half belongs to a pair. -/
def joinPieces : List Piece → Option (List Char)
  | [] => some []
  | .char c :: rest => (joinPieces rest).map (c :: ·)
  | .half high :: .half low :: rest =>
    if isHighUnit high && isLowUnit low then (joinPieces rest).map (pairChar high low :: ·)
    else none
  | .half _ :: _ => none

/-- The content of a string literal behind its opening quote, if it has one, and the text behind
its closing quote. -/
def readString (cs : List Char) : Option (Option String × List Char) := do
  let (pieces, rest) ← readPieces cs
  return ((joinPieces pieces).map String.ofList, rest)

end ActionTree.Json
