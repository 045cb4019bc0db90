import ActionTree.Testing.Sh.Point

/-!
# Formatted output of the shell

* `echoed`: the text that `echo` prints, with its escapes.
* `Format.print`: what `printf` prints: its format, as often as there are arguments left.
-/

namespace ActionTree.Sh

/-- The character of a number, of which only the lowest eight bits count. -/
def byteChar (n : Nat) : Char := Char.ofNat (n % 256)

/-- What a letter behind a backslash stands for. -/
def controlEscape? : Char → Option Char
  | 'a' => some '\x07'
  | 'b' => some '\x08'
  | 'f' => some '\x0c'
  | 'n' => some '\n'
  | 'r' => some '\r'
  | 't' => some '\t'
  | 'v' => some '\x0b'
  | 'e' => some '\x1b'
  | '\\' => some '\\'
  | _ => none

/-- Is the character an octal digit? -/
def isOctal (c : Char) : Bool := '0' ≤ c && c ≤ '7'

/-- At most so many octal digits, as a number. -/
def octal : Nat → Nat → Bytes → Nat × Bytes
  | n + 1, acc, c :: cs =>
    if isOctal c then octal n (acc * 8 + (c.toNat - '0'.toNat)) cs else (acc, c :: cs)
  | _, acc, cs => (acc, cs)

/-- The character of an octal escape of up to three digits, not counting a zero in front, and the
text behind it. -/
def octalEscape (c : Char) (rest : Bytes) : Nat × Bytes :=
  octal 3 0 (if c = '0' then rest else c :: rest)

/-- A text that is at most so long with its escapes carried out, behind a text in reverse. Behind
`\c` nothing counts, and that is said too. -/
def unescapeOnto : Nat → Bytes → Bytes → Bytes × Bool
  | 0, done, _ => (done.reverse, false)
  | n + 1, done, cs =>
    match cs with
    | [] => (done.reverse, false)
    | '\\' :: 'c' :: _ => (done.reverse, true)
    | '\\' :: c :: rest =>
      match controlEscape? c with
      | some d => unescapeOnto n (d :: done) rest
      | none =>
        if isOctal c then
          let (code, out) := octalEscape c rest
          unescapeOnto n (byteChar code :: done) out
        else unescapeOnto n (c :: '\\' :: done) rest
    | c :: rest => unescapeOnto n (c :: done) rest

/-- A text with its escapes: control characters, `\0` with up to three octal digits (without the `0`
as well), and `\c`, behind which nothing counts. -/
def unescape (cs : Bytes) : Bytes × Bool := unescapeOnto (cs.length + 1) [] cs

/-- Words with blanks between them. -/
def spaced (ws : List Bytes) : Bytes := [' '].intercalate ws

/-- The text that `echo` prints: its arguments with their escapes, and a line feed at the end unless
the first one is `-n`. -/
def echoed (args : List Bytes) : Bytes :=
  let (feed, args) := match args with
    | ['-', 'n'] :: rest => (false, rest)
    | args => (true, args)
  let (text, stop) := unescape (spaced args)
  if feed && !stop then text ++ ['\n'] else text

/-- Text padded with blanks to a width. -/
def pad (left : Bool) (width : Nat) (cs : Bytes) : Bytes :=
  let fill := List.replicate (width - cs.length) ' '
  if left then cs ++ fill else fill ++ cs

namespace Format

/-- A conversion of a format. -/
structure Conversion where
  left : Bool
  zero : Bool
  plus : Bool
  blank : Bool
  alternate : Bool
  width : Nat
  precision : Option Nat
  kind : Char

/-- A conversion without options. -/
def Conversion.plain (kind : Char) : Conversion :=
  ⟨false, false, false, false, false, 0, none, kind⟩

/-- What is wrong with an argument that should be a number. -/
inductive Flaw where
  | noNumber
  /-- There is more behind the number. -/
  | incomplete
  | outOfRange
  deriving DecidableEq

/-- What formatting found so far. -/
structure Printed where
  /-- What is printed, in reverse. -/
  reversed : Bytes
  /-- The arguments that are left. -/
  args : List Bytes
  /-- The arguments that are not numbers, the latest first, with what is wrong with them. -/
  complaints : List (Bytes × Flaw)
  /-- Does nothing follow? -/
  stop : Bool

/-- Digits with a sign in front, padded with zeros or blanks. -/
def padSigned (c : Conversion) (zero : Bool) (sign digits : Bytes) : Bytes :=
  if zero && !c.left then
    sign ++ List.replicate (c.width - sign.length - digits.length) '0' ++ digits
  else pad c.left c.width (sign ++ digits)

/-- The digits of a whole number: a precision is their least number, and none are needed for 0. -/
def wholeDigits (c : Conversion) (base n : Nat) : Bytes :=
  match c.precision with
  | none => Nat.toDigits base n
  | some p =>
    let ds := if n = 0 then [] else Nat.toDigits base n
    List.replicate (p - ds.length) '0' ++ ds

/-- The sign of a number. -/
def signOf (c : Conversion) (negative : Bool) : Bytes :=
  if negative then ['-'] else if c.plus then ['+'] else if c.blank then [' '] else []

/-- A whole number as it is converted. -/
def wholeText (c : Conversion) (v : Int) : Bytes :=
  let n := (UInt64.ofInt v).toNat
  let zero := c.zero && c.precision.isNone
  match c.kind with
  | 'd' | 'i' => padSigned c zero (signOf c (v < 0)) (wholeDigits c 10 v.natAbs)
  | 'o' =>
    let ds := wholeDigits c 8 n
    padSigned c zero [] (if c.alternate && ds.head? ≠ some '0' then '0' :: ds else ds)
  | 'x' => padSigned c zero (if c.alternate && n ≠ 0 then ['0', 'x'] else []) (wholeDigits c 16 n)
  | 'X' =>
    padSigned c zero (if c.alternate && n ≠ 0 then ['0', 'X'] else [])
      ((wholeDigits c 16 n).map Char.toUpper)
  | _ => padSigned c zero [] (wholeDigits c 10 n)

/-- A number with a point as it is converted; six places are usual. -/
def pointText (c : Conversion) (x : Binary64) : Bytes :=
  let sign := signOf c x.negative
  let upper (cs : Bytes) : Bytes := if c.kind.isUpper then cs.map Char.toUpper else cs
  if !x.isFinite then
    pad c.left c.width (sign ++ upper (if x.isInfinite then "inf" else "nan").toList)
  else
    let places := c.precision.getD 6
    let body := match c.kind.toLower with
      | 'f' => Point.fixed c.alternate places x
      | 'e' => Point.scientific c.alternate places x
      | 'g' => Point.general c.alternate places x
      | _ => Point.hexadecimal c.alternate c.precision x
    match body with
    | '0' :: 'x' :: digits => padSigned c c.zero (sign ++ upper ['0', 'x']) (upper digits)
    | body => padSigned c c.zero sign (upper body)

/-- A text that has at most the width of a precision. -/
def cut (c : Conversion) (cs : Bytes) : Bytes :=
  match c.precision with
  | some p => cs.take p
  | none => cs

/-! ## Arguments -/

/-- What is wrong with an argument behind whose number something is left, if anything. -/
def flaw? (rest : Bytes) (out : Bool) : Option Flaw :=
  if !rest.isEmpty then some .incomplete else if out then some .outOfRange else none

/-- What is wrong with an argument that is no number, if anything. -/
def noNumber (arg : Bytes) : Option Flaw := if arg.isEmpty then none else some .noNumber

/-- The code of the character behind a quote. -/
def quotedCode? : Bytes → Option Nat
  | '"' :: rest | '\x27' :: rest => some ((rest.headD '\x00').toNat)
  | _ => none

/-- The number that an argument is, and what is wrong with it; a quote stands for the code of the
character behind it. What is out of range is the nearest number in range. -/
def wholeArg (signed : Bool) (arg : Bytes) : Int × Option Flaw :=
  match quotedCode? arg with
  | some n => (n, none)
  | none =>
    match Arith.signed? Arith.number arg with
    | none => (0, noNumber arg)
    | some (i, rest) =>
      if signed then
        (min (max i Arith.least) Arith.greatest, flaw? rest (!Arith.inRange i))
      else if UInt64.size ≤ i.natAbs then
        ((UInt64.size : Int) - 1, flaw? rest true)
      else (i, flaw? rest false)

/-- The number with a point that an argument is, and what is wrong with it. -/
def pointArg (arg : Bytes) : Binary64 × Option Flaw :=
  match quotedCode? arg with
  | some n => (.ofInt n, none)
  | none =>
    match Point.read? arg with
    | none => (.zero false, noNumber arg)
    | some found => (found.value, flaw? found.rest found.outOfRange)

/-- Printed text with more behind it. -/
def Printed.add (p : Printed) (text : Bytes) (flaw : Option Flaw) (stop : Bool) : Printed :=
  { p with
    reversed := text.reverseAux p.reversed
    args := p.args.tail
    complaints := (flaw.map (p.args.headD [], ·)).toList ++ p.complaints
    stop := stop }

/-- The next argument as it is converted. -/
def convert (c : Conversion) (p : Printed) : Printed :=
  let arg := p.args.headD []
  match c.kind with
  | 's' => p.add (pad c.left c.width (cut c arg)) none false
  | 'b' => let (text, stop) := unescape arg; p.add (pad c.left c.width (cut c text)) none stop
  | 'c' => p.add (pad c.left c.width [arg.headD '\x00']) none false
  | kind =>
    if "aAeEfFgG".toList.contains kind then
      let (x, flaw) := pointArg arg
      p.add (pointText c x) flaw false
    else
      let (v, flaw) := wholeArg (kind = 'd' || kind = 'i') arg
      p.add (wholeText c v) flaw false

/-! ## Formats -/

/-- The flags at the start of a conversion. -/
def flags (c : Conversion) : Bytes → Conversion × Bytes
  | '-' :: rest => flags { c with left := true } rest
  | '0' :: rest => flags { c with zero := true } rest
  | '+' :: rest => flags { c with plus := true } rest
  | ' ' :: rest => flags { c with blank := true } rest
  | '#' :: rest => flags { c with alternate := true } rest
  | cs => (c, cs)

/-- A width or a precision: digits, or a star for the next argument. -/
def size (p : Printed) : Bytes → Int × Printed × Bytes
  | '*' :: rest =>
    let (v, flaw) := wholeArg true (p.args.headD [])
    (v, p.add [] flaw false, rest)
  | cs => (Text.number (cs.takeWhile (·.isDigit)), p, cs.dropWhile (·.isDigit))

/-- The conversion behind a percent sign, and the format behind it. -/
def conversion (p : Printed) (cs : Bytes) : Conversion × Printed × Bytes :=
  let (c, cs) := flags (.plain ' ') cs
  let (width, p, cs) := size p cs
  let c := { c with width := width.natAbs, left := c.left || width < 0 }
  match cs with
  | '.' :: cs =>
    let (precision, p, cs) := size p cs
    let precision := if precision < 0 then none else some precision.toNat
    ({ c with precision := precision, kind := cs.headD ' ' }, p, cs)
  | cs => ({ c with kind := cs.headD ' ' }, p, cs)

/-- Why a format cannot be printed, behind what was printed before. -/
structure Stopped where
  printed : Printed
  reason : Bytes

/-- The kinds of conversions. -/
def kinds : List Char := "sbcdiouxXaAeEfFgG".toList

/-- What is said of a format that ends in the middle of a conversion. -/
def missingKind : Bytes := "missing format character".toList

/-- One pass through a format that is at most so long. -/
def pass : Nat → Bytes → Printed → Except Stopped Printed
  | 0, _, p => .ok p
  | n + 1, cs, p =>
    let put (c : Char) : Printed := { p with reversed := c :: p.reversed }
    match cs with
    | [] => .ok p
    | '%' :: '%' :: rest => pass n rest (put '%')
    | '%' :: rest =>
      let (c, q, tail) := conversion p rest
      match tail with
      | [] => .error ⟨q, missingKind⟩
      | k :: after =>
        if kinds.contains k then
          let q := convert c q
          if q.stop then .ok q else pass n after q
        else
          let shown := '%' :: rest.take (rest.length - after.length)
          .error ⟨q, shown ++ ": invalid directive".toList⟩
    | '\\' :: c :: rest =>
      match controlEscape? c with
      | some d => pass n rest (put d)
      | none =>
        if isOctal c then
          let (code, rest) := octal 3 0 (c :: rest)
          pass n rest (put (byteChar code))
        else pass n (c :: rest) (put '\\')
    | c :: rest => pass n rest (put c)

/-- Does a format use arguments? -/
def usesArgs : Bytes → Bool
  | '%' :: '%' :: rest => usesArgs rest
  | '%' :: _ => true
  | _ :: rest => usesArgs rest
  | [] => false

/-- Passes through a format while there are arguments left. -/
def passes (format : Bytes) : Nat → Printed → Except Stopped Printed
  | 0, p => .ok p
  | n + 1, p => do
    let p ← pass (format.length + 1) format p
    if p.stop || p.args.isEmpty || !usesArgs format then return p else passes format n p

/-- What a format prints for some arguments. -/
def print (format : Bytes) (args : List Bytes) : Except Stopped Printed :=
  passes format (args.length + 1) ⟨[], args, [], false⟩

end Format

end ActionTree.Sh
