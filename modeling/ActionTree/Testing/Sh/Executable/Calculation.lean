import ActionTree.Testing.Sh.Executable.Options
import ActionTree.Testing.Sh.Expression.Reader

/-!
# Calculating with arguments

`expr` calculates with whole numbers and texts; each of its arguments is an operator or an operand.
`factor` writes numbers as products of primes.

* `Calculation.Result`: a number or a text.
* `Calculation.expr`: the program.
* `Factors.factors`: the primes of a number.
-/

namespace ActionTree.Sh.Calculation

/-- A number or a text. -/
inductive Result where
  | number (i : Int)
  | text (cs : Bytes)

/-- Is the text a whole number? -/
def isWhole (cs : Bytes) : Bool :=
  let ds := match cs with
    | '-' :: rest => rest
    | cs => cs
  !ds.isEmpty && ds.all Char.isDigit

namespace Result

/-- The text of a result. -/
def toText : Result → Bytes
  | .number i => decimal i
  | .text cs => cs

/-- Is it 0, or a text that is empty or that is 0? -/
def isNull : Result → Bool
  | .number i => i = 0
  | .text [] => true
  | .text cs => isWhole cs && (cs.filter Char.isDigit).all (· = '0')

/-- The whole number that a text is. -/
def wholeOf (cs : Bytes) : Int :=
  match cs with
  | '-' :: ds => -(Text.number ds : Int)
  | ds => Text.number ds

/-- The whole number of a result. -/
def whole? : Result → Option Int
  | .number i => some i
  | .text cs => if isWhole cs then some (wholeOf cs) else none

/-- A result of a comparison. -/
def ofBool (b : Bool) : Result := .number (if b then 1 else 0)

end Result

/-- Why there is no result. -/
inductive Fault where
  | missingBehind (arg : Bytes)
  | unexpected (arg : Bytes)
  | unexpectedClosing
  | closingBehind (arg : Bytes)
  | closingInstead (arg : Bytes)
  | noWhole
  | divisionByZero
  | expression (e : ExpressionFault)

/-- What is said of a fault. -/
def Fault.message : Fault → Bytes
  | .missingBehind arg => "syntax error: missing argument after ".toList ++ visibly arg
  | .unexpected arg => "syntax error: unexpected argument ".toList ++ visibly arg
  | .unexpectedClosing => "syntax error: unexpected ')'".toList
  | .closingBehind arg => "syntax error: expecting ')' after ".toList ++ visibly arg
  | .closingInstead arg => "syntax error: expecting ')' instead of ".toList ++ visibly arg
  | .noWhole => "non-integer argument".toList
  | .divisionByZero => "division by zero".toList
  | .expression e => e.message

/-! ## Operations -/

/-- How a regular expression fits at the start of a text: what its first group fits, if it has one,
or how many characters it fits. -/
def matched (a b : Result) : Except Fault Result :=
  let cs := a.toText
  match Expression.read ⟨false, false⟩ b.toText with
  | .error e => .error (.expression e)
  | .ok (e, groups) =>
    let fit := Expression.longest? (e.ends ⟨cs.toArray, false, false⟩ ⟨0, []⟩)
    if groups = 0 then .ok (.number ((fit.map (·.place)).getD 0))
    else match fit.bind (·.group? 1) with
      | some (i, j) => .ok (.text ((cs.drop i).take (j - i)))
      | none => .ok (.text [])

/-- An operator between two operands. -/
inductive Operator where
  | either | both
  | lt | le | eq | ne | ge | gt
  | add | sub
  | mul | div | rem
  | fits
  deriving DecidableEq

namespace Operator

/-- The operators by their texts. -/
def all : List (String × Operator) :=
  [("|", either), ("&", both), ("<", lt), ("<=", le), ("=", eq), ("==", eq), ("!=", ne),
    (">=", ge), (">", gt), ("+", add), ("-", sub), ("*", mul), ("/", div), ("%", rem), (":", fits)]

/-- How tightly an operator binds, on a scale from 0 to `tightest`. -/
def level : Operator → Nat
  | either => 0
  | both => 1
  | lt | le | eq | ne | ge | gt => 2
  | add | sub => 3
  | mul | div | rem => 4
  | fits => 5

/-- The level of operators that bind most tightly. -/
def tightest : Nat := 5

/-- The operator of a level that an argument is. -/
def at? (level : Nat) (arg : Bytes) : Option Operator :=
  (all.find? fun o => o.1.toList = arg && o.2.level = level).map (·.2)

/-- Does a comparison hold, given whether the first operand is less and whether they are equal? -/
def holds (o : Operator) (less equal : Bool) : Bool :=
  match o with
  | lt => less
  | le => less || equal
  | eq => equal
  | ne => !equal
  | ge => !less
  | _ => !less && !equal

/-- Compares as numbers where both are whole, and as texts else. -/
def compare (o : Operator) (a b : Result) : Result :=
  let (x, y) := (a.toText, b.toText)
  if isWhole x && isWhole y then
    let (i, j) := (Result.wholeOf x, Result.wholeOf y)
    .ofBool (o.holds (i < j) (i = j))
  else .ofBool (o.holds (inOrder x y && x ≠ y) (x = y))

/-- Calculates with whole numbers; quotients are rounded toward zero. -/
def calculate (o : Operator) (a b : Result) : Except Fault Result :=
  match a.whole?, b.whole? with
  | some i, some j =>
    match o with
    | add => .ok (.number (i + j))
    | sub => .ok (.number (i - j))
    | mul => .ok (.number (i * j))
    | div => if j = 0 then .error .divisionByZero else .ok (.number (i.tdiv j))
    | _ => if j = 0 then .error .divisionByZero else .ok (.number (i.tmod j))
  | _, _ => .error .noWhole

/-- Is the second operand of no account? -/
def isDecided (o : Operator) (a : Result) : Bool :=
  match o with
  | either => !a.isNull
  | both => a.isNull
  | _ => false

/-- What an operator makes of two operands; where the result is of no account nothing fails. -/
def apply (o : Operator) (live : Bool) (a b : Result) : Except Fault Result :=
  match o with
  | either => .ok (if !a.isNull then a else if !b.isNull then b else .number 0)
  | both => .ok (if a.isNull || b.isNull then .number 0 else a)
  | lt | le | eq | ne | ge | gt => .ok (if live then o.compare a b else .number 0)
  | fits => if live then matched a b else .ok a
  | o => if live then o.calculate a b else .ok a

end Operator

/-! ## Reading -/

/-- The arguments that are left, and the one before them. -/
structure Reading where
  last : Bytes
  rest : List Bytes

/-- A computation that reads arguments. -/
abbrev Reader (α : Type) := StateT Reading (Except Fault) α

/-- Takes the next argument. -/
def next : Reader Bytes := do
  let r ← get
  match r.rest with
  | [] => throw (.missingBehind r.last)
  | arg :: rest => do
    set (⟨arg, rest⟩ : Reading)
    return arg

/-- The place of the first of some characters in a text, counted from 1, or 0. -/
def indexOf (cs wanted : Bytes) : Nat :=
  match cs.findIdx? wanted.contains with
  | some i => i + 1
  | none => 0

/-- So many characters of a text from a place on, counted from 1. -/
def part (cs : Bytes) (start size : Int) : Bytes :=
  if start ≤ 0 || size ≤ 0 then [] else (cs.drop (start.toNat - 1)).take size.toNat

mutual

/-- An operand: parentheses, a function of operands, or an argument as it is. -/
def operand (live : Bool) : Nat → Reader Result
  | 0 => throw .noWhole
  | n + 1 => do
    match String.ofList (← next) with
    | "+" => return .text (← next)
    | "length" => return .number (← operand live n).toText.length
    | "match" => do
      let a ← operand live n
      let b ← operand live n
      Operator.fits.apply live a b
    | "index" => do
      let a ← operand live n
      let b ← operand live n
      return .number (indexOf a.toText b.toText)
    | "substr" => do
      let a ← operand live n
      let start ← operand live n
      let size ← operand live n
      return match start.whole?, size.whole? with
        | some i, some j => .text (part a.toText i j)
        | _, _ => .text []
    | "(" => do
      let v ← level live 0 n
      match (← get).rest with
      | [] => throw (.closingBehind (← get).last)
      | arg :: rest =>
        if arg = [')'] then
          set (⟨arg, rest⟩ : Reading)
          return v
        else throw (.closingInstead arg)
    | ")" => throw .unexpectedClosing
    | arg => return .text arg.toList

/-- Operands with operators of a level and tighter ones between them. -/
def level (live : Bool) (k : Nat) : Nat → Reader Result
  | 0 => throw .noWhole
  | n + 1 => do
    let first ← if k < Operator.tightest then level live (k + 1) n else operand live n
    more live k first n

/-- Goes on behind a result while operators of a level follow. -/
def more (live : Bool) (k : Nat) (a : Result) : Nat → Reader Result
  | 0 => throw .noWhole
  | n + 1 => do
    match (← get).rest with
    | [] => return a
    | arg :: rest =>
      match Operator.at? k arg with
      | none => return a
      | some o => do
        set (⟨arg, rest⟩ : Reading)
        let inner := live && !o.isDecided a
        let b ← if k < Operator.tightest then level inner (k + 1) n else operand inner n
        more live k (← o.apply live a b) n

end

/-- The result of all arguments. -/
def result (args : List Bytes) : Except Fault Result := do
  let fuel := (Operator.tightest + 2) * (args.length + 2)
  let (v, r) ← (level true 0 fuel).run ⟨[], args⟩
  match r.rest with
  | [] => return v
  | arg :: _ => throw (.unexpected arg)

/-- The status of failures in the arguments. -/
def misused : Nat := 2

/-- Calculates with the arguments and prints the result; the status says whether it is null. -/
def expr : Executable := fun args => do
  let args := if args.head? = some "--".toList then args.tail else args
  if args.isEmpty then
    Act.setFailing misused
    Act.misuse "missing operand".toList
  if args = ["--help".toList] || args = ["--version".toList] then Act.finish 0
  Act.setFailing 3
  match result args with
  | .error e => do
    Act.warn e.message
    Act.finish misused
  | .ok v => do
    Act.put (fed v.toText)
    Act.setStatus (if v.isNull then 1 else 0)

end ActionTree.Sh.Calculation

namespace ActionTree.Sh.Factors

/-- The greatest number that is tried as a factor. -/
def mostTried : Nat := 4000000

/-- The primes of a number behind those in reverse that were found, none of them below `d`, with so
many steps: each step takes a factor away or goes on to the next number. What is left when nothing
below its root divides it is a prime. -/
def factorsOnto : Nat → List Nat → Nat → Nat → List Nat
  | 0, done, _, n => (n :: done).reverse
  | steps + 1, done, d, n =>
    if n < 2 then done.reverse
    else if n < d * d then (n :: done).reverse
    else if n % d = 0 then factorsOnto steps (d :: done) d (n / d)
    else factorsOnto steps done (if d = 2 then 3 else d + 2) n

/-- The primes of a number, each as often as it divides it, the smallest first. -/
def factors (n : Nat) : List Nat := factorsOnto (mostTried + n.log2) [] 2 n

/-- Numbers with how often each of them follows itself. -/
def runs : List Nat → List (Nat × Nat)
  | [] => []
  | n :: ns =>
    match runs ns with
    | (m, k) :: rest => if m = n then (m, k + 1) :: rest else (n, 1) :: (m, k) :: rest
    | [] => [(n, 1)]

/-- A number with its factors; with `short`, those that are there more than once as powers. -/
def line (short : Bool) (n : Nat) : Bytes :=
  let shown : List Bytes :=
    if short then (runs (factors n)).map fun (p, k) =>
      decimal (p : Nat) ++ if k = 1 then [] else '^' :: decimal (k : Nat)
    else (factors n).map fun p => decimal (p : Nat)
  decimal n ++ ':' :: shown.flatMap (' ' :: ·)

/-- The number that a text is, perhaps behind blanks and a sign. -/
def number? (text : Bytes) : Option Nat :=
  let ds := match text.dropWhile (· = ' ') with
    | '+' :: ds => ds
    | ds => ds
  if ds.isEmpty || !ds.all Char.isDigit then none else some (Text.number ds)

/-- Prints the factors of numbers. -/
def factor : Executable := withOptions "h" [("exponents", .never, 'h')] fun o => do
  let texts ← match o.operands with
    | [] => do
      match ← Act.readInput with
      | .ok text => pure ((wordsOf text).filter (!·.isEmpty))
      | .error t => Act.quit ("error reading input: ".toList ++ t.message)
    | texts => pure texts
  for text in texts do
    match number? text with
    | some n => Act.put (fed (line (o.has 'h') n))
    | none => Act.complain (visibly text ++ " is not a valid positive integer".toList)
where
  /-- The words of a text, between blanks. -/
  wordsOf (text : Bytes) : List Bytes :=
    splitAt ' ' (text.map fun c => if Arith.isSpace c then ' ' else c)

end ActionTree.Sh.Factors
