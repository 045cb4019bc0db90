import ActionTree.Testing.Sh.Executable.Options

/-!
# Bytes as digits of codes

`base64` and `base32` write bytes with a few characters that every program lets through, and read
them again. Some bytes together are some digits; where bytes are missing at the end, signs of
equality fill the place of their digits.

* `Code.encode`: bytes as digits.
* `Code.decode`: what digits stand for, up to a fault.
-/

namespace ActionTree.Sh.Encoding

/-- A code. -/
structure Code where
  /-- The digits by their values. -/
  digits : Array Char
  /-- How many bits a digit stands for. -/
  bits : Nat
  /-- How many digits are whole bytes together. -/
  group : Nat
  /-- Do the digits of a group count that is not finished? -/
  opens : Bool

namespace Code

/-- The code with 64 digits. -/
def base64 : Code :=
  ⟨"ABCDEFGHIJKLMNOPQRSTUVWXYZabcdefghijklmnopqrstuvwxyz0123456789+/".toList.toArray, 6, 4, true⟩

/-- The code with 32 digits. -/
def base32 : Code := ⟨"ABCDEFGHIJKLMNOPQRSTUVWXYZ234567".toList.toArray, 5, 8, false⟩

/-- How many bytes a group of digits stands for. -/
def bytes (c : Code) : Nat := c.group * c.bits / 8

/-- The value of a digit. -/
def value? (c : Code) (d : Char) : Option Nat := c.digits.idxOf? d

/-- The digits of bytes that are a group, or the last ones. -/
def ofBytes (c : Code) (cs : Bytes) : Bytes :=
  let n := cs.foldl (fun n b => n * 256 + b.toNat) 0 * Nat.pow 256 (c.bytes - cs.length)
  let used := (8 * cs.length + c.bits - 1) / c.bits
  (List.range c.group).map fun i =>
    if i < used then
      c.digits.getD (n / Nat.pow c.digits.size (c.group - 1 - i) % c.digits.size) '='
    else '='

/-- Bytes as digits, in so many groups at most, behind digits in reverse. -/
def encodeOnto (c : Code) : Nat → Bytes → Bytes → Bytes
  | 0, done, _ => done.reverse
  | n + 1, done, cs =>
    if cs.isEmpty then done.reverse
    else c.encodeOnto n ((c.ofBytes (cs.take c.bytes)).reverseAux done) (cs.drop c.bytes)

/-- Bytes as digits. -/
def encode (c : Code) (cs : Bytes) : Bytes := c.encodeOnto (cs.length + 1) [] cs

/-- The bytes that a group of digits stands for, and whether nothing is wrong with it. Behind the
first sign of equality nothing else may follow, and what it leaves has to be whole bytes with less
than a digit to spare. -/
def ofGroup (c : Code) (ds : Bytes) : Bytes × Bool :=
  let values := (ds.map c.value?).takeWhile Option.isSome |>.reduceOption
  let n := values.foldl (fun n v => n * c.digits.size + v) 0
  let count := values.length * c.bits / 8
  let spare := values.length * c.bits - 8 * count
  let whole := n / Nat.pow 2 spare
  let bytes := (List.range count).map fun i => byteChar (whole / Nat.pow 256 (count - 1 - i))
  let fill := ds.drop values.length
  let isFilled := fill.all (· = '=') && 0 < count && spare < c.bits
  if c.group ≤ ds.length then (bytes, isFilled)
  else (if c.opens then bytes else [], false)

/-- What digits in so many groups at most stand for, up to a fault, behind bytes in reverse, and
whether there is none. -/
def decodeOnto (c : Code) : Nat → Bytes → Bytes → Bytes × Bool
  | 0, done, _ => (done.reverse, true)
  | n + 1, done, ds =>
    if ds.isEmpty then (done.reverse, true)
    else
      let (bytes, isGood) := c.ofGroup (ds.take c.group)
      let done := bytes.reverseAux done
      if isGood then c.decodeOnto n done (ds.drop c.group) else (done.reverse, false)

/-- What digits stand for, up to a fault, and whether there is none. Line feeds do not count. -/
def decode (c : Code) (ds : Bytes) : Bytes × Bool :=
  let ds := ds.filter (· ≠ '\n')
  c.decodeOnto (ds.length + 1) [] ds

end Code

/-- A text in lines of a width, of which there are at most so many, behind lines in reverse. -/
def wrappedOnto (width : Nat) : Nat → Bytes → Bytes → Bytes
  | 0, done, _ => done.reverse
  | n + 1, done, cs =>
    if cs.isEmpty then done.reverse
    else wrappedOnto width n ('\n' :: (cs.take width).reverseAux done) (cs.drop width)

/-- A text in lines of a width; all in one line without an end if the width is 0. -/
def wrapped (width : Nat) (cs : Bytes) : Bytes :=
  if width = 0 then cs else wrappedOnto width (cs.length + 1) [] cs

/-- The width of lines, unless it is given. -/
def usualWidth : Nat := 76

/-- The program of a code. -/
def program (c : Code) : Executable := withOptions "diw:"
  [("decode", .never, 'd'), ("ignore-garbage", .never, 'i'), ("wrap", .always, 'w')] fun o => do
  let width ← match o.value? 'w' with
    | none => pure usualWidth
    | some ds =>
      if !ds.isEmpty && ds.all Char.isDigit then
        let n := Text.number ds
        pure (if n < Nat.pow 2 63 then n else 0)
      else Act.quit ("invalid wrap size: ".toList ++ visibly ds)
  if let some extra := o.operands[1]? then Act.misuse ("extra operand ".toList ++ visibly extra)
  match ← Act.read (o.operands.headD ['-']) with
  | .error .isDirectory => Act.quit ("read error: ".toList ++ Trouble.message .isDirectory)
  | .error t => Act.quit (Act.unreadable (o.operands.headD ['-']) t)
  | .ok text =>
    if !o.has 'd' then Act.put (wrapped width (c.encode text))
    else
      let isKnown (d : Char) : Bool := d = '=' || (c.value? d).isSome
      let (bytes, isGood) := c.decode (if o.has 'i' then text.filter isKnown else text)
      Act.put bytes
      if !isGood then Act.quit "invalid input".toList

end ActionTree.Sh.Encoding
