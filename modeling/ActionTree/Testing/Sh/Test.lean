import ActionTree.Testing.Sh.Machine

/-!
# Tests of the shell

The command `test` looks at strings, numbers and files. `-a` binds more tightly than `-o`, and both
less tightly than `!`. With three arguments of which the second is an operator, the others are its
operands, whatever they look like.

* `Test.holds`: the truth value of a test, or what is wrong with it.
-/

namespace ActionTree.Sh.Test

/-- Why a test has no truth value. -/
abbrev Fault := Bytes

/-- What a test can look at: nodes by their paths, with links followed or not, and which descriptors
are open. -/
structure View where
  disk : Disk
  directory : Bytes

/-- The node at a path. -/
def View.node? (v : View) (follow : Bool) (path : Bytes) : Option (Nat × Node) :=
  match v.disk.place follow v.directory path with
  | .ok p => p.node.map fun n => (n, v.disk.node n)
  | .error _ => none

/-- A kind of operator. -/
inductive Operator where
  | unary (letter : Char)
  | binary (name : String)
  | not
  | and
  | or
  | opening
  | closing
  deriving DecidableEq

/-- The letters of the tests with one operand. -/
def unaryLetters : List Char := "rwxefdcbpugkstznhOGLS".toList

/-- The tests with two operands. -/
def binaryNames : List String :=
  ["=", "==", "!=", "<", ">", "-eq", "-ne", "-ge", "-gt", "-le", "-lt", "-nt", "-ot", "-ef"]

/-- The operator that an argument is. -/
def operator? (arg : Bytes) : Option Operator :=
  match arg with
  | ['!'] => some .not
  | ['('] => some .opening
  | [')'] => some .closing
  | ['-', 'a'] => some .and
  | ['-', 'o'] => some .or
  | _ =>
    if binaryNames.contains (String.ofList arg) then some (.binary (String.ofList arg))
    else match arg with
      | ['-', c] => if unaryLetters.contains c then some (.unary c) else none
      | _ => none

/-- Is it an operator with two operands? -/
def isBinary : Option Operator → Bool
  | some (.binary _) => true
  | _ => false

/-- What the first argument is, given those behind it: an operator with one operand needs one that
is not itself in front of an operator with two. -/
def token (args : List Bytes) : Option Operator :=
  match args with
  | [] => none
  | a :: rest =>
    match operator? a, rest with
    | some (.unary _), [] => none
    | some (.unary c), b :: _ :: _ => if isBinary (operator? b) then none else some (.unary c)
    | some .opening, [] => none
    | o, _ => o

/-- A number in a test. -/
def number (cs : Bytes) : Except Fault Int :=
  match Arith.decimal? cs with
  | some v => .ok v
  | none => .error ("Illegal number: ".toList ++ cs)

/-- A test with two operands. -/
def binary (v : View) (op : String) (a b : Bytes) : Except Fault Bool :=
  let numeric (f : Int → Int → Bool) : Except Fault Bool := do
    return f (← number a) (← number b)
  let files (f : Nat × Node → Nat × Node → Bool) : Except Fault Bool :=
    match v.node? true a, v.node? true b with
    | some x, some y => .ok (f x y)
    | _, _ => .ok false
  match op with
  | "=" | "==" => .ok (a = b)
  | "!=" => .ok (a ≠ b)
  | "<" => .ok (!inOrder b a)
  | ">" => .ok (!inOrder a b)
  | "-eq" => numeric fun a b => a = b
  | "-ne" => numeric fun a b => a ≠ b
  | "-lt" => numeric fun a b => a < b
  | "-le" => numeric fun a b => a ≤ b
  | "-gt" => numeric fun a b => b < a
  | "-ge" => numeric fun a b => b ≤ a
  | "-nt" => files fun x y => y.2.time < x.2.time
  | "-ot" => files fun x y => x.2.time < y.2.time
  | _ => files fun x y => x.1 = y.1

/-- Is a node a file with a text? -/
def Kind.isFile : Kind → Bool
  | .file _ | .program _ => true
  | _ => false

/-- A test with one operand. -/
def unary (v : View) (letter : Char) (a : Bytes) : Except Fault Bool :=
  let there (f : Node → Bool) : Except Fault Bool := .ok ((v.node? true a).any fun x => f x.2)
  let hasBit (bit : Nat) : Except Fault Bool := there fun x => x.mode &&& bit ≠ 0
  match letter with
  | 'n' => .ok !a.isEmpty
  | 'z' => .ok a.isEmpty
  | 't' => do
    discard (number a)
    return false
  | 'f' => there fun x => Kind.isFile x.kind
  | 'd' => there fun x => match x.kind with
    | .directory _ => true
    | _ => false
  | 's' => there fun x => match x.kind with
    | .file c => c.size ≠ 0
    | .device _ => false
    | _ => true
  | 'c' => there fun x => match x.kind with
    | .device (.descriptor _) => false
    | .device _ => true
    | _ => false
  | 'x' => there fun x => match x.kind with
    | .directory _ => true
    | _ => x.mode &&& 0o111 ≠ 0
  | 'h' | 'L' => .ok ((v.node? false a).any fun x => match x.2.kind with
    | .link _ => true
    | _ => false)
  | 'u' => hasBit 0o4000
  | 'g' => hasBit 0o2000
  | 'k' => hasBit 0o1000
  | 'b' | 'p' | 'S' => .ok false
  | _ => there fun _ => true

/-- What is said of an operand that is missing. -/
def missing : Fault := "argument expected".toList

/-- What is said of something that does not belong behind an operand. -/
def surplus (operand : Bytes) : Fault := operand ++ ": unexpected operator".toList

mutual

/-- Tests joined by `-o`. The result is what holds, and the arguments from the last one on that was
looked at. -/
def disjunction (v : View) : Nat → Option Operator → List Bytes → Except Fault (Bool × List Bytes)
  | 0, _, _ => .error missing
  | n + 1, o, args => do
    let (a, args) ← conjunction v n o args
    if token (args.drop 1) = some .or then
      let (b, args) ← disjunction v n (token (args.drop 2)) (args.drop 2)
      return (a || b, args)
    else return (a, args)

/-- Tests joined by `-a`. -/
def conjunction (v : View) : Nat → Option Operator → List Bytes → Except Fault (Bool × List Bytes)
  | 0, _, _ => .error missing
  | n + 1, o, args => do
    let (a, args) ← negation v n o args
    if token (args.drop 1) = some .and then
      let (b, args) ← conjunction v n (token (args.drop 2)) (args.drop 2)
      return (a && b, args)
    else return (a, args)

/-- A test, perhaps negated. -/
def negation (v : View) : Nat → Option Operator → List Bytes → Except Fault (Bool × List Bytes)
  | 0, _, _ => .error missing
  | n + 1, o, args =>
    if o = some .not then
      if (args.drop 1).isEmpty then return (true, args)
      else do
        let (b, out) ← negation v n (token (args.drop 1)) (args.drop 1)
        return (!b, out)
    else single v n o args

/-- A test that is not joined. -/
def single (v : View) : Nat → Option Operator → List Bytes → Except Fault (Bool × List Bytes)
  | 0, _, _ => .error missing
  | n + 1, o, args =>
    match o, args with
    | _, [] => .ok (false, [])
    | some .opening, _ :: rest =>
      if token rest = some .closing then .ok (false, rest)
      else do
        let (b, args) ← disjunction v n (token rest) rest
        if token (args.drop 1) ≠ some .closing then throw "closing paren expected".toList
        return (b, args.drop 1)
    | some (.unary c), a :: rest =>
      match rest with
      | b :: _ => (unary v c b).map (·, rest)
      | [] => .error (a ++ ": ".toList ++ missing)
    | _, a :: rest =>
      match token rest, rest with
      | some (.binary op), name :: more =>
        match more with
        | b :: _ => (binary v op a b).map (·, more)
        | [] => .error (name ++ ": ".toList ++ missing)
      | _, _ => .ok (!a.isEmpty, a :: rest)

end

/-- The truth value of a test that is read from its start, of which the first argument is an
operator or not. -/
def evaluate (v : View) (o : Option Operator) (args : List Bytes) : Except Fault Bool := do
  let (b, out) ← disjunction v (4 * args.length + 8) o args
  match out with
  | a :: _ :: _ => throw (if a.isEmpty then "unexpected operator".toList else surplus a)
  | _ => return b

/-- The truth value of a test. Of three or four arguments the outer ones may be parentheses, and the
first may be a negation of the whole. -/
def holds (v : View) : Nat → List Bytes → Except Fault Bool
  | 0, _ => .ok false
  | n + 1, args =>
    match args with
    | [] => .ok false
    | a :: rest =>
      if args.length = 3 && isBinary ((rest.head?).bind operator?) then evaluate v none args
      else if args.length = 3 || args.length = 4 then
        if a = ['('] && args.getLast? = some [')'] then
          evaluate v (token rest.dropLast) rest.dropLast
        else if a = ['!'] then (holds v n rest).map (!·)
        else evaluate v (token args) args
      else evaluate v (token args) args

end ActionTree.Sh.Test
