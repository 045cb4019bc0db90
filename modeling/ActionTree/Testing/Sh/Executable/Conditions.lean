import ActionTree.Testing.Sh.Executable.Basic
import ActionTree.Testing.Sh.Test

/-!
# Tests as a program

`test` and `[` as programs look at the number of their arguments first: up to four of them have a
meaning of their own. With more of them `-a` binds more tightly than `-o`.

* `Conditions.holds`: the truth value of a test, or what is wrong with it.
-/

namespace ActionTree.Sh.Conditions

/-- What a test comes to: its truth value with the arguments behind it, or what is wrong with it. -/
abbrev Outcome := Except Bytes (Bool × List Bytes)

/-- What a test is about: what it looks at, and its last argument. -/
structure Setting where
  view : Test.View
  last : Bytes

/-- What is said of a test that ends too early. -/
def Setting.beyond {α : Type} (t : Setting) : Except Bytes α :=
  .error ("missing argument after ".toList ++ visibly t.last)

/-- The tests with two operands. -/
def binaryNames : List String :=
  ["=", "==", "!=", "-eq", "-ne", "-ge", "-gt", "-le", "-lt", "-nt", "-ot", "-ef"]

/-- The letters of the tests with one operand. -/
def unaryLetters : List Char := "erwxNOGfdsScbpLhtnzugk".toList

/-- Is it the name of a test with two operands? -/
def isBinary (arg : Bytes) : Bool := binaryNames.contains (String.ofList arg)

/-- The operands, which have to be whole numbers for some tests. -/
def number (arg : Bytes) : Except Bytes Int :=
  let isBlank (c : Char) : Bool := c = ' ' || c = '\t'
  let text := ((arg.dropWhile isBlank).reverse.dropWhile isBlank).reverse
  let (sign, digits) : Int × Bytes := match text with
    | '-' :: ds => (-1, ds)
    | '+' :: ds => (1, ds)
    | ds => (1, ds)
  if digits.isEmpty || !digits.all Char.isDigit then
    .error ("invalid integer ".toList ++ visibly arg)
  else .ok (sign * (Arith.digits 10 0 digits).1)

/-- A test with two operands. -/
def binary (t : Setting) (a op b : Bytes) : Except Bytes Bool :=
  let numeric (f : Int → Int → Bool) : Except Bytes Bool := do return f (← number a) (← number b)
  let time? (path : Bytes) : Option Nat := (t.view.node? true path).map (·.2.time)
  match String.ofList op with
  | "-eq" => numeric fun a b => a = b
  | "-ne" => numeric fun a b => a ≠ b
  | "-lt" => numeric fun a b => a < b
  | "-le" => numeric fun a b => a ≤ b
  | "-gt" => numeric fun a b => b < a
  | "-ge" => numeric fun a b => b ≤ a
  | "-nt" => .ok ((time? a).any fun x => (time? b).all (· < x))
  | "-ot" => .ok ((time? b).any fun y => (time? a).all (· < y))
  | name => Test.binary t.view name a b

/-- A test with one operand behind a letter. -/
def unary (t : Setting) (op : Bytes) (rest : List Bytes) : Outcome :=
  match op, rest with
  | ['-', c], a :: rest =>
    if c = 't' then (number a).map fun _ => (false, rest)
    else if unaryLetters.contains c then (Test.unary t.view c a).map (·, rest)
    else .error (visibly op ++ ": unary operator expected".toList)
  | ['-', c], [] =>
    if unaryLetters.contains c then t.beyond
    else .error (visibly op ++ ": unary operator expected".toList)
  | _, _ => t.beyond

/-- Is it a hyphen with a letter? -/
def isLetter : Bytes → Bool
  | ['-', _] => true
  | _ => false

/-- A test of one argument. -/
def one (t : Setting) : List Bytes → Outcome
  | [] => t.beyond
  | a :: rest => .ok (!a.isEmpty, rest)

/-- A test of two arguments. -/
def two (t : Setting) (args : List Bytes) : Outcome :=
  match args with
  | ['!'] :: rest => (one t rest).map fun (b, out) => (!b, out)
  | a :: rest => if isLetter a then unary t a rest else t.beyond
  | [] => t.beyond

/-- How many arguments are between parentheses, given those behind the first one. -/
def innerCount (args : List Bytes) : Nat :=
  let n := ((args.drop 1).takeWhile (· ≠ [')'])).length + 1
  if n ≤ 4 then min n args.length else args.length

mutual

/-- A test of so many arguments, of which there may be more. -/
def counted (t : Setting) : Nat → Nat → List Bytes → Outcome
  | 0, _, _ => t.beyond
  | n + 1, count, args =>
    match count, args with
    | 1, args => one t args
    | 2, args => two t args
    | 3, args => three t n args
    | 4, ['!'] :: rest => (three t n rest).map fun (b, out) => (!b, out)
    | 4, ['('] :: a :: b :: [')'] :: rest => (two t [a, b]).map fun (b, _) => (b, rest)
    | _, args => disjunction t n args

/-- A test of three arguments. -/
def three (t : Setting) : Nat → List Bytes → Outcome
  | 0, _ => t.beyond
  | n + 1, args =>
    match args with
    | a :: op :: b :: rest =>
      if isBinary op then (binary t a op b).map (·, rest)
      else if a = ['!'] then (two t (op :: b :: rest)).map fun (b, out) => (!b, out)
      else if a = ['('] && b = [')'] then .ok (!op.isEmpty, rest)
      else if op = ['-', 'a'] || op = ['-', 'o'] then disjunction t n args
      else .error (visibly op ++ ": binary operator expected".toList)
    | _ => t.beyond

/-- Tests joined by `-o`. -/
def disjunction (t : Setting) : Nat → List Bytes → Outcome
  | 0, _ => t.beyond
  | n + 1, args => do
    let (a, out) ← conjunction t n args
    match out with
    | ['-', 'o'] :: rest => do
      let (b, out) ← disjunction t n rest
      return (a || b, out)
    | _ => return (a, out)

/-- Tests joined by `-a`. -/
def conjunction (t : Setting) : Nat → List Bytes → Outcome
  | 0, _ => t.beyond
  | n + 1, args => do
    let (a, out) ← single t n args
    match out with
    | ['-', 'a'] :: rest => do
      let (b, out) ← conjunction t n rest
      return (a && b, out)
    | _ => return (a, out)

/-- A test that is not joined, perhaps negated or between parentheses. -/
def single (t : Setting) : Nat → List Bytes → Outcome
  | 0, _ => t.beyond
  | n + 1, args =>
    match args with
    | [] => t.beyond
    | ['!'] :: rest => (single t n rest).map fun (b, out) => (!b, out)
    | ['('] :: rest =>
      if rest.isEmpty then t.beyond
      else do
        let (b, out) ← counted t n (innerCount rest) rest
        match out with
        | [')'] :: out => return (b, out)
        | [] => throw (visibly [')'] ++ " expected".toList)
        | found :: _ =>
          throw (visibly [')'] ++ " expected, found ".toList ++ visibly found)
    | a :: op :: b :: rest =>
      if isBinary op then (binary t a op b).map (·, rest)
      else if isLetter a then unary t a (op :: b :: rest)
      else .ok (!a.isEmpty, op :: b :: rest)
    | a :: rest => if isLetter a then unary t a rest else .ok (!a.isEmpty, rest)

end

/-- The truth value of a test. -/
def holds (v : Test.View) (args : List Bytes) : Except Bytes Bool := do
  if args.isEmpty then return false
  let (b, out) ← counted ⟨v, args.getLastD []⟩ (8 * args.length + 8) args.length args
  match out with
  | [] => return b
  | a :: _ => throw ("extra argument ".toList ++ visibly a)

/-- Prints nothing: the status says whether a test holds. -/
def test : Executable := fun args => do
  Act.setFailing 2
  let s ← get
  match holds ⟨s.disk, s.directory⟩ args with
  | .ok b => Act.setStatus (if b then 0 else 1)
  | .error what => Act.quit what

/-- A test in brackets. -/
def bracket : Executable := fun args => do
  Act.setFailing 2
  if args = ["--help".toList] || args = ["--version".toList] then Act.finish 0
  if args.getLast? ≠ some [']'] then Act.quit ("missing ".toList ++ visibly [']'])
  test args.dropLast

end ActionTree.Sh.Conditions
