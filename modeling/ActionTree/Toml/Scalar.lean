import ActionTree.Document.Basic

/-!
# Strings, numbers and dates of TOML

In the program: its TOML reader.

* `readString`: the four forms of strings. Line ends inside are line feeds.
* `readNumber`: whole numbers of the range `-2^63 … 2^63-1` in four bases, and decimal fractions,
  rounded to nearest.
* `readDate`: dates and times, of which only the form matters.
-/

namespace ActionTree.Toml

/-- A reader: what stands at the start of a text and the text behind it. -/
abbrev Read (α : Type) := List Char → Option (α × List Char)

/-- Blanks inside of a line. -/
def isBlank (c : Char) : Bool := c = ' ' || c = '\t'

/-- The text without the blanks at its start. -/
def skipBlanks (cs : List Char) : List Char := cs.dropWhile isBlank

/-- Characters of comments and strings: no control characters but the tab. -/
def isPlain (c : Char) : Bool := c = '\t' || 32 ≤ c.toNat && c.toNat ≠ 127

/-- The rest of a text behind a line end. -/
def lineEnd? : List Char → Option (List Char)
  | '\n' :: rest => some rest
  | '\r' :: '\n' :: rest => some rest
  | _ => none

/-- The rest of a text behind a line end, if there is one. -/
def skipLineEnd (cs : List Char) : List Char := (lineEnd? cs).getD cs

/-! ## Strings -/

/-- The value of a hexadecimal digit. -/
def hexValue? (c : Char) : Option Nat :=
  if c.isDigit then some (c.toNat - '0'.toNat)
  else if 'a' ≤ c ∧ c ≤ 'f' then some (c.toNat - 'a'.toNat + 10)
  else if 'A' ≤ c ∧ c ≤ 'F' then some (c.toNat - 'A'.toNat + 10)
  else none

/-- The character with a code given by hexadecimal digits. -/
def codeChar? (ds : List Char) : Option Char := do
  let n ← ds.foldlM (fun n c => (hexValue? c).map (16 * n + ·)) 0
  if n.isValidChar then some (Char.ofNat n) else none

/-- An escape behind its backslash. -/
def readEscape : Read Char
  | 'b' :: rest => some ('\x08', rest)
  | 't' :: rest => some ('\t', rest)
  | 'n' :: rest => some ('\n', rest)
  | 'f' :: rest => some ('\x0c', rest)
  | 'r' :: rest => some ('\r', rest)
  | '"' :: rest => some ('"', rest)
  | '\\' :: rest => some ('\\', rest)
  | 'u' :: rest =>
    if rest.length < 4 then none else (codeChar? (rest.take 4)).map (·, rest.drop 4)
  | 'U' :: rest =>
    if rest.length < 8 then none else (codeChar? (rest.take 8)).map (·, rest.drop 8)
  | _ => none

/-- A string between quotation marks, behind the first of them. -/
def readBasic : Nat → Read (List Char)
  | 0, _ => none
  | _ + 1, [] => none
  | fuel + 1, c :: rest =>
    if c = '"' then some ([], rest)
    else if c = '\\' then do
      let (e, rest) ← readEscape rest
      let (cs, out) ← readBasic fuel rest
      return (e :: cs, out)
    else if isPlain c then (readBasic fuel rest).map fun (cs, out) => (c :: cs, out)
    else none

/-- A string between apostrophes, behind the first of them. -/
def readLiteral : Read (List Char)
  | [] => none
  | c :: rest =>
    if c = '\x27' then some ([], rest)
    else if isPlain c then (readLiteral rest).map fun (cs, out) => (c :: cs, out)
    else none

/-- The blanks and line ends behind a backslash at the end of a line; there is at least one line
end. -/
def skipFolded? (cs : List Char) : Option (List Char) :=
  (lineEnd? (skipBlanks cs)).map (·.dropWhile fun c => isBlank c || c = '\n' || c = '\r')

/-- Is every carriage return followed by a line feed in what was skipped? -/
def foldIsClean : List Char → Bool
  | '\r' :: '\n' :: rest => foldIsClean rest
  | '\r' :: _ => false
  | _ :: rest => foldIsClean rest
  | [] => true

/-- The end of a string of several lines: three marks, and up to two in front that belong to it. -/
def closing? (mark : Char) (cs : List Char) : Option (List Char × List Char) :=
  let n := (cs.takeWhile (· = mark)).length
  if n < 3 then none
  else
    let extra := min (n - 3) 2
    some (List.replicate extra mark, cs.drop (extra + 3))

/-- A string of several lines, behind its opening marks and the line end after them. -/
def readLines (mark : Char) (escapes : Bool) : Nat → Read (List Char)
  | 0, _ => none
  | _ + 1, [] => none
  | fuel + 1, c :: rest =>
    match closing? mark (c :: rest) with
    | some found => some found
    | none =>
      match lineEnd? (c :: rest) with
      | some rest => (readLines mark escapes fuel rest).map fun (cs, out) => ('\n' :: cs, out)
      | none =>
        if escapes && c = '\\' then
          match skipFolded? rest with
          | some behind =>
            if foldIsClean (rest.take (rest.length - behind.length)) then
              readLines mark escapes fuel behind
            else none
          | none => do
            let (e, rest) ← readEscape rest
            let (cs, out) ← readLines mark escapes fuel rest
            return (e :: cs, out)
        else if isPlain c then
          (readLines mark escapes fuel rest).map fun (cs, out) => (c :: cs, out)
        else none

/-- A string on one line. -/
def readLineString : Read (List Char)
  | '"' :: rest => readBasic (rest.length + 1) rest
  | '\x27' :: rest => readLiteral rest
  | _ => none

/-- A string of any form. -/
def readString : Read (List Char)
  | '"' :: '"' :: '"' :: rest =>
    let body := skipLineEnd rest
    readLines '"' true (body.length + 1) body
  | '\x27' :: '\x27' :: '\x27' :: rest =>
    let body := skipLineEnd rest
    readLines '\x27' false (body.length + 1) body
  | cs => readLineString cs

/-! ## Numbers -/

/-- Digits with single underscores between them, without the underscores. -/
def readDigits (isDigit : Char → Bool) : Read (List Char)
  | c :: rest =>
    if isDigit c then
      match rest with
      | '_' :: d :: more =>
        if isDigit d then (readDigits isDigit (d :: more)).map fun (ds, out) => (c :: ds, out)
        else none
      | '_' :: [] => none
      | d :: more =>
        if isDigit d then (readDigits isDigit (d :: more)).map fun (ds, out) => (c :: ds, out)
        else some ([c], d :: more)
      | [] => some ([c], [])
    else none
  | [] => none

/-- The number that digits denote in a base. -/
def digitsValue (base : Nat) (ds : List Char) : Nat :=
  ds.foldl (fun n c => base * n + (hexValue? c).getD 0) 0

/-- A whole number as a value, if it is in range. -/
def intValue? (i : Int) : Option Document :=
  if Json.leastInt ≤ i ∧ i < -Json.leastInt then some (.value (.int i)) else none

/-- A whole number in a base, behind its prefix. -/
def readBased (base : Nat) (isDigit : Char → Bool) : Read Document := fun cs => do
  let (ds, rest) ← readDigits isDigit cs
  return (← intValue? (digitsValue base ds), rest)

/-- Is it a hexadecimal digit? -/
def isHexDigit (c : Char) : Bool := (hexValue? c).isSome

/-- Is it an octal digit? -/
def isOctalDigit (c : Char) : Bool := '0' ≤ c && c ≤ '7'

/-- Is it a binary digit? -/
def isBinaryDigit (c : Char) : Bool := c = '0' || c = '1'

/-- The fraction of a decimal number, if there is one. -/
def readFraction : Read (Option (List Char))
  | '.' :: rest => (readDigits (·.isDigit) rest).map fun (ds, out) => (some ds, out)
  | cs => some (none, cs)

/-- The digits of an exponent with its sign. -/
def readSigned : Read (Bool × List Char)
  | '+' :: rest => (readDigits (·.isDigit) rest).map fun (ds, out) => ((false, ds), out)
  | '-' :: rest => (readDigits (·.isDigit) rest).map fun (ds, out) => ((true, ds), out)
  | cs => (readDigits (·.isDigit) cs).map fun (ds, out) => ((false, ds), out)

/-- The exponent of a decimal number, if there is one. -/
def readExponent : Read (Option (Bool × List Char))
  | 'e' :: rest => (readSigned rest).map fun (e, out) => (some e, out)
  | 'E' :: rest => (readSigned rest).map fun (e, out) => (some e, out)
  | cs => some (none, cs)

/-- A decimal number with a fraction or an exponent; there is none above all finite ones. -/
def floatValue? (negative : Bool) (whole : List Char) (fraction : Option (List Char))
    (exponent : Option (Bool × List Char)) : Option Document :=
  let fs := fraction.getD []
  let e : Int := match exponent with
    | none => 0
    | some (minus, ds) => if minus then -(digitsValue 10 ds : Int) else digitsValue 10 ds
  let n := digitsValue 10 (whole ++ fs)
  let shift := e - fs.length
  let x : Binary64 :=
    if n = 0 then .zero negative
    else if shift < -1200 - (whole.length + fs.length : Nat) then .zero negative
    else if 400 < shift then .infinite negative
    else if 0 ≤ shift then .ofRatio negative (n * Nat.pow 10 shift.toNat) 1
    else .ofRatio negative n (Nat.pow 10 shift.natAbs)
  if x.isInfinite && !negative then none else some (.value (.float x))

/-- A decimal number behind its sign. -/
def readDecimal (negative : Bool) : Read Document := fun cs => do
  let (whole, rest) ← readDigits (·.isDigit) cs
  if whole.head? = some '0' ∧ 1 < whole.length then none
  else
    let (fraction, rest) ← readFraction rest
    let (exponent, rest) ← readExponent rest
    if fraction.isNone && exponent.isNone then
      let n : Int := digitsValue 10 whole
      return (← intValue? (if negative then -n else n), rest)
    else return (← floatValue? negative whole fraction exponent, rest)

/-- A number behind its sign: infinity, no number, or decimal. -/
def readUnsigned (negative : Bool) : Read Document
  | 'i' :: 'n' :: 'f' :: rest => some (.value (.float (.infinite negative)), rest)
  | 'n' :: 'a' :: 'n' :: rest => some (.value (.float (.undefined negative)), rest)
  | cs => readDecimal negative cs

/-- A number. Other bases than ten have a prefix and no sign. -/
def readNumber : Read Document
  | '0' :: 'x' :: rest => readBased 16 isHexDigit rest
  | '0' :: 'o' :: rest => readBased 8 isOctalDigit rest
  | '0' :: 'b' :: rest => readBased 2 isBinaryDigit rest
  | '+' :: rest => readUnsigned false rest
  | '-' :: rest => readUnsigned true rest
  | cs => readUnsigned false cs

/-! ## Dates and times -/

/-- A number of exactly so many digits within bounds. -/
def readFixed (width least greatest : Nat) : Read Nat := fun cs =>
  let ds := cs.take width
  let n := digitsValue 10 ds
  if ds.length = width ∧ ds.all (·.isDigit) ∧ least ≤ n ∧ n ≤ greatest then some (n, cs.drop width)
  else none

/-- The rest of a text behind a character. -/
def mark? (c : Char) : List Char → Option (List Char)
  | d :: rest => if d = c then some rest else none
  | [] => none

/-- The number of days of a month. -/
def daysIn (year month : Nat) : Nat :=
  if month = 2 then
    if year % 4 = 0 ∧ (year % 100 ≠ 0 ∨ year % 400 = 0) then 29 else 28
  else if month = 4 ∨ month = 6 ∨ month = 9 ∨ month = 11 then 30
  else 31

/-- The rest of a text behind a date. -/
def skipDay? (cs : List Char) : Option (List Char) := do
  let (year, cs) ← readFixed 4 0 9999 cs
  let cs ← mark? '-' cs
  let (month, cs) ← readFixed 2 1 12 cs
  let cs ← mark? '-' cs
  let (_, cs) ← readFixed 2 1 (daysIn year month) cs
  return cs

/-- The rest of a text behind a fraction of a second, if there is one. -/
def skipFraction? : List Char → Option (List Char)
  | '.' :: rest => if rest.head?.any (·.isDigit) then some (rest.dropWhile (·.isDigit)) else none
  | cs => some cs

/-- The rest of a text behind a time. -/
def skipTime? (cs : List Char) : Option (List Char) := do
  let (_, cs) ← readFixed 2 0 23 cs
  let cs ← mark? ':' cs
  let (_, cs) ← readFixed 2 0 59 cs
  let cs ← mark? ':' cs
  let (_, cs) ← readFixed 2 0 60 cs
  skipFraction? cs

/-- The rest of a text behind an offset, if there is one. -/
def skipOffset? : List Char → Option (List Char)
  | 'Z' :: rest => some rest
  | 'z' :: rest => some rest
  | '+' :: rest => hours rest
  | '-' :: rest => hours rest
  | cs => some cs
where
  /-- The hours and minutes of an offset. -/
  hours (cs : List Char) : Option (List Char) := do
    let (_, cs) ← readFixed 2 0 23 cs
    let cs ← mark? ':' cs
    let (_, cs) ← readFixed 2 0 59 cs
    return cs

/-- The rest of a text behind the time of a day, which may be left out. -/
def skipMoment? : List Char → Option (List Char)
  | 'T' :: rest => (skipTime? rest).bind skipOffset?
  | 't' :: rest => (skipTime? rest).bind skipOffset?
  | ' ' :: rest =>
    match skipTime? rest with
    | some rest => skipOffset? rest
    | none => some (' ' :: rest)
  | cs => some cs

/-- A date, a time or both. -/
def readDate : Read Document := fun cs =>
  match skipDay? cs with
  | some rest => (skipMoment? rest).map (.date, ·)
  | none => (skipTime? cs).map (.date, ·)

end ActionTree.Toml
