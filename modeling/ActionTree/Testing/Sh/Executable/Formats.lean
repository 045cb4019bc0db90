import ActionTree.Testing.Sh.Executable.Basic

/-!
# Formats as a program

`printf` as a program knows more escapes and conversions than the command of the shell, and says
other things of what is wrong.

* `Formats.print`: what a format prints for some arguments.
-/

namespace ActionTree.Sh.Formats

/-- The bytes of a character of some code. -/
def encoded (code : Nat) : Bytes :=
  (String.singleton (Char.ofNat code)).toUTF8.toList.map fun b => Char.ofNat b.toNat

/-- At most so many hexadecimal digits, as a number, and the text behind them; none without a
digit. -/
def hexadecimal? (most : Nat) (cs : Bytes) : Option (Nat × Bytes) :=
  let ds := (cs.take most).takeWhile fun c => (Arith.digit? 16 c).isSome
  if ds.isEmpty then none else some ((Arith.digits 16 0 ds).1, cs.drop ds.length)

/-- What an escape stands for, given the text behind the backslash, and what follows it. -/
def escape? (cs : Bytes) : Option (Bytes × Bytes) :=
  match cs with
  | '"' :: rest => some (['"'], rest)
  | 'x' :: rest => (hexadecimal? 2 rest).map fun (n, out) => ([byteChar n], out)
  | 'u' :: rest => (hexadecimal? 4 rest).map fun (n, out) => (encoded n, out)
  | 'U' :: rest => (hexadecimal? 8 rest).map fun (n, out) => (encoded n, out)
  | c :: rest =>
    match controlEscape? c with
    | some d => some ([d], rest)
    | none =>
      if isOctal c then
        let (code, out) := octal 3 0 (c :: rest)
        some ([byteChar code], out)
      else none
  | [] => none

/-- A conversion behind a percent sign: what the sizes in front of it say of numbers has no
meaning. -/
def conversion (p : Format.Printed) (cs : Bytes) : Format.Conversion × Format.Printed × Bytes :=
  let (c, q, tail) := Format.conversion p (cs.dropWhile (· = '\x27'))
  let tail := tail.dropWhile ("hlLjtz".toList.contains ·)
  ({ c with kind := tail.headD ' ' }, q, tail)

/-- One pass through a format that is at most so long, or the conversion that there is not. -/
def pass : Nat → Bytes → Format.Printed → Except (Format.Printed × Bytes) Format.Printed
  | 0, _, p => .ok p
  | n + 1, cs, p =>
    let put (text : Bytes) : Format.Printed := { p with reversed := text.reverseAux p.reversed }
    match cs with
    | [] => .ok p
    | '%' :: '%' :: rest => pass n rest (put ['%'])
    | '%' :: rest =>
      let (c, q, tail) := conversion p rest
      let after := tail.drop 1
      if c.kind = 'q' then
        pass n after (q.add (pad c.left c.width (shown (q.args.headD []))) none false)
      else if Format.kinds.contains c.kind then
        let q := Format.convert c q
        if q.stop then .ok q else pass n after q
      else .error (q, '%' :: rest.take (rest.length - after.length))
    | '\\' :: 'c' :: _ => .ok { p with stop := true }
    | '\\' :: rest =>
      match escape? rest with
      | some (text, out) => pass n out (put text)
      | none => pass n (rest.drop 1) (put ('\\' :: rest.take 1))
    | c :: rest => pass n rest (put [c])

/-- Passes through a format while there are arguments left and it uses them. -/
def passes (format : Bytes) : Nat → Format.Printed → Except (Format.Printed × Bytes) Format.Printed
  | 0, p => .ok p
  | n + 1, p => do
    let q ← pass (format.length + 1) format p
    if q.stop || q.args.isEmpty || q.args.length = p.args.length then return q
    else passes format n q

/-- What a format prints for some arguments. -/
def print (format : Bytes) (args : List Bytes) : Except (Format.Printed × Bytes) Format.Printed :=
  passes format (args.length + 1) ⟨[], args, [], false⟩

/-- What is said of an argument that is not a number. -/
def flawMessage (arg : Bytes) (flaw : Format.Flaw) : Bytes :=
  let what := match flaw with
    | .noNumber => "expected a numeric value"
    | .incomplete => "value not completely converted"
    | .outOfRange => "Numerical result out of range"
  visibly arg ++ ": ".toList ++ what.toList

/-- Prints a format. -/
def printf : Executable := fun args => do
  let put (p : Format.Printed) : Act Unit := do
    for (arg, flaw) in p.complaints.reverse do
      Act.complain (flawMessage arg flaw)
    Act.put p.reversed.reverse
  let words := if args.head? = some ['-', '-'] then args.drop 1 else args
  if args = ["--help".toList] || args = ["--version".toList] then Act.finish 0
  match words with
  | [] => Act.misuse "missing operand".toList
  | format :: args =>
    match print format args with
    | .error (p, shown) => do
      put p
      Act.quit (shown ++ ": invalid conversion specification".toList)
    | .ok p => do
      put p
      if let some arg := p.args.head? then
        if !p.stop then
          Act.warn ("warning: ignoring excess arguments, starting with ".toList ++ visibly arg)

end ActionTree.Sh.Formats
