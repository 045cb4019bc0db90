import ActionTree.Testing.Sh.Syntax
import ActionTree.Text.Decimal

/-!
# Shell arithmetic

Expressions over whole numbers of 64 bits, with variables, the operators of C, its precedence and
its assignments. A variable that is not set counts as 0. What `&&`, `||` and `?:` do not need is
read but not evaluated: it assigns nothing and divides nothing.

* `Arith.tokens`: the tokens of a text.
* `Arith.value`: the value of an expression and what it assigns.
-/

namespace ActionTree.Sh

/-- Why an expression has no value. -/
inductive ArithFault where
  | noPrimary
  | notAtEnd
  | noParen
  | noColon
  | divisionByZero
  /-- The value of a variable is no number. -/
  | notNumber (text : Bytes)
  /-- The least number divided by -1, which the processor refuses. -/
  | trap
  deriving DecidableEq

/-- What is said of a fault in an expression. -/
def ArithFault.message (expression : Bytes) : ArithFault → Bytes
  | .notNumber text => "Illegal number: ".toList ++ text
  | f =>
    let what := match f with
      | .noPrimary => "expecting primary"
      | .notAtEnd => "expecting EOF"
      | .noParen => "expecting ')'"
      | .noColon => "expecting ':'"
      | _ => "division by zero"
    "arithmetic expression: ".toList ++ what.toList ++ ": \"".toList ++ expression ++ ['"']

/-- Arguments that count something are numbers below `2^31`. -/
def countBound : Nat := 2147483648

/-- A number as text. -/
def decimal (i : Int) : Bytes := (toString i).toList

namespace Arith

/-- The greatest number of 64 bits, `2^63-1`. -/
def greatest : Int := 9223372036854775807

/-- The least number of 64 bits. -/
def least : Int := -9223372036854775808

/-- The number of 64 bits that a whole number wraps to. -/
def wrap (i : Int) : Int := Int.bmod i UInt64.size

/-! ## Numbers -/

/-- The value of a digit of a base. -/
def digit? (base : Nat) (c : Char) : Option Nat :=
  let n := if c.isDigit then c.toNat - '0'.toNat
    else if 'a' ≤ c.toLower && c.toLower ≤ 'f' then c.toLower.toNat - 'a'.toNat + 10
    else 16
  if n < base then some n else none

/-- The number at the start of a text, in a base, and the text behind it. -/
def digits (base : Nat) : Nat → Bytes → Nat × Bytes
  | n, [] => (n, [])
  | n, c :: cs =>
    match digit? base c with
    | some d => digits base (n * base + d) cs
    | none => (n, c :: cs)

/-- Does a text start with a digit of a base? -/
def startsWithDigit (base : Nat) (cs : Bytes) : Bool := (cs.head?.bind (digit? base)).isSome

/-- The number at the start of a text: decimal, octal behind `0`, hexadecimal behind `0x`. -/
def number (cs : Bytes) : Nat × Bytes :=
  match cs with
  | '0' :: x :: rest =>
    if (x = 'x' || x = 'X') && startsWithDigit 16 rest then digits 16 0 rest
    else digits 8 0 (x :: rest)
  | cs => digits 10 0 cs

/-- Is the character white space? -/
def isSpace (c : Char) : Bool := c = ' ' || ('\t' ≤ c && c ≤ '\r')

/-- The number at the start of a text, perhaps behind blanks and with a sign, and the text behind
it. A text without digits has none. -/
def signed? (read : Bytes → Nat × Bytes) (cs : Bytes) : Option (Int × Bytes) :=
  let cs := cs.dropWhile isSpace
  let (negative, body) : Bool × Bytes := match cs with
    | '-' :: rest => (true, rest)
    | '+' :: rest => (false, rest)
    | cs => (false, cs)
  if startsWithDigit 10 body then
    let (n, rest) := read body
    some (if negative then -(n : Int) else n, rest)
  else none

/-- Is a number one of 64 bits? -/
def inRange (i : Int) : Bool := least ≤ i && i ≤ greatest

/-- The number of 64 bits that a text is, perhaps with a sign and with blanks around it. -/
def whole? (read : Bytes → Nat × Bytes) (cs : Bytes) : Option Int :=
  match signed? read cs with
  | some (i, rest) => if inRange i && rest.all isSpace then some i else none
  | none => none

/-- The decimal number that a text is. -/
def decimal? (cs : Bytes) : Option Int := whole? (digits 10 0) cs

/-! ## Tokens -/

/-- A binary operator. -/
inductive Operator where
  | mul | div | rem | add | sub | shiftLeft | shiftRight | lt | le | gt | ge | eq | ne
  | bitAnd | bitXor | bitOr
  deriving DecidableEq

/-- How tightly an operator binds. -/
def Operator.level : Operator → Nat
  | mul | div | rem => 8
  | add | sub => 7
  | shiftLeft | shiftRight => 6
  | lt | le | gt | ge => 5
  | eq | ne => 4
  | bitAnd => 3
  | bitXor => 2
  | bitOr => 1

/-- A part of an expression. -/
inductive Part where
  | number (i : Int)
  | name (x : Bytes)
  | operator (o : Operator)
  /-- An assignment, perhaps of what an operator makes of the value so far. -/
  | assign (o : Option Operator)
  | and
  | or
  | not
  | complement
  | question
  | colon
  | opening
  | closing
  /-- A character that is part of no expression; nothing is read behind it. -/
  | other
  deriving DecidableEq

/-- The operators and marks by their texts; one that another one starts with comes later. -/
def marks : List (String × Part) :=
  [("<<=", .assign (some .shiftLeft)), (">>=", .assign (some .shiftRight)),
    ("*=", .assign (some .mul)), ("/=", .assign (some .div)), ("%=", .assign (some .rem)),
    ("+=", .assign (some .add)), ("-=", .assign (some .sub)), ("&=", .assign (some .bitAnd)),
    ("^=", .assign (some .bitXor)), ("|=", .assign (some .bitOr)), ("&&", .and), ("||", .or),
    ("<<", .operator .shiftLeft), (">>", .operator .shiftRight), ("<=", .operator .le),
    (">=", .operator .ge), ("==", .operator .eq), ("!=", .operator .ne), ("=", .assign none),
    ("<", .operator .lt), (">", .operator .gt), ("&", .operator .bitAnd),
    ("^", .operator .bitXor), ("|", .operator .bitOr), ("+", .operator .add),
    ("-", .operator .sub), ("*", .operator .mul), ("/", .operator .div), ("%", .operator .rem),
    ("!", .not), ("~", .complement), ("?", .question), (":", .colon), ("(", .opening),
    (")", .closing)]

/-- The tokens of a text that is at most so long. -/
def tokensIn : Nat → Bytes → List Part
  | 0, _ => []
  | n + 1, cs =>
    match cs.dropWhile fun c => c = ' ' || c = '\t' || c = '\n' with
    | [] => []
    | c :: rest =>
      if c.isDigit then
        let (v, out) := number (c :: rest)
        .number (min v greatest) :: tokensIn n out
      else if isNameStart c then
        let (x, out) := (c :: rest).span isNameChar
        .name x :: tokensIn n out
      else match marks.find? fun m => m.1.toList.isPrefixOf (c :: rest) with
        | some (text, part) => part :: tokensIn n ((c :: rest).drop text.length)
        | none => [.other]

/-- The tokens of a text. -/
def tokens (cs : Bytes) : List Part := tokensIn cs.length cs

/-! ## Evaluation -/

/-- What is left to read, and what has been assigned, the latest first. -/
structure Progress where
  rest : List Part
  assigned : List (Bytes × Int)

/-- A step of an evaluation. -/
abbrev Calc (α : Type) := StateT Progress (Except ArithFault) α

/-- A truth value as a number. -/
def ofBool (b : Bool) : Int := if b then 1 else 0

/-- A bitwise operator. -/
def bitwise (f : UInt64 → UInt64 → UInt64) (a b : Int) : Int :=
  wrap (f (UInt64.ofInt a) (UInt64.ofInt b)).toNat

/-- A quotient or a remainder. -/
def dividing (f : Int → Int → Int) (a b : Int) : Except ArithFault Int :=
  if b = 0 then .error .divisionByZero
  else if a = least ∧ b = -1 then .error .trap
  else .ok (f a b)

/-- The value of an operator. A shift looks at the lowest six bits of its distance. -/
def Operator.compute (a b : Int) : Operator → Except ArithFault Int
  | mul => .ok (wrap (a * b))
  | div => dividing Int.tdiv a b
  | rem => dividing Int.tmod a b
  | add => .ok (wrap (a + b))
  | sub => .ok (wrap (a - b))
  | shiftLeft => .ok (wrap (a * Int.pow 2 (b % 64).toNat))
  | shiftRight => .ok (a / Int.pow 2 (b % 64).toNat)
  | lt => .ok (ofBool (a < b))
  | le => .ok (ofBool (a ≤ b))
  | gt => .ok (ofBool (b < a))
  | ge => .ok (ofBool (b ≤ a))
  | eq => .ok (ofBool (a = b))
  | ne => .ok (ofBool (a ≠ b))
  | bitAnd => .ok (bitwise (· &&& ·) a b)
  | bitXor => .ok (bitwise (· ^^^ ·) a b)
  | bitOr => .ok (bitwise (· ||| ·) a b)

/-- The next token, which is passed over. -/
def next : Calc (Option Part) := do
  let p ← get
  set { p with rest := p.rest.tail }
  return p.rest.head?

/-- The next token, which stays. -/
def peek : Calc (Option Part) := return (← get).rest.head?

/-- The value of a variable: what was assigned last, or what a text says. -/
def valueOf (lookup : Bytes → Bytes) (x : Bytes) : Calc Int := do
  match (← get).assigned.find? (·.1 = x) with
  | some (_, v) => return v
  | none =>
    let text := lookup x
    if text.all isSpace then return 0
    else match whole? number text with
      | some v => return v
      | none => throw (.notNumber text)

mutual

/-- An operand. -/
def primary (lookup : Bytes → Bytes) (live : Bool) : Nat → Calc Int
  | 0 => throw .noPrimary
  | n + 1 => do
    match ← next with
    | some .opening =>
      let v ← assignment lookup live n
      if (← peek) ≠ some .closing then throw .noParen
      discard next
      return v
    | some (.number i) => return i
    | some (.name x) => if live then valueOf lookup x else return 0
    | some (.operator .add) => primary lookup live n
    | some (.operator .sub) => return wrap (-(← primary lookup live n))
    | some .not => return ofBool ((← primary lookup live n) = 0)
    | some .complement => return -(← primary lookup live n) - 1
    | _ => throw .noPrimary

/-- Operands joined by operators that bind at least so tightly. -/
def joined (lookup : Bytes → Bytes) (live : Bool) (level : Nat) : Nat → Calc Int
  | 0 => throw .noPrimary
  | n + 1 => do
    let v ← primary lookup live n
    more lookup live level v n

/-- What follows an operand. -/
def more (lookup : Bytes → Bytes) (live : Bool) (level : Nat) (v : Int) : Nat → Calc Int
  | 0 => throw .noPrimary
  | n + 1 => do
    match ← peek with
    | some (.operator o) =>
      if o.level < level then return v
      else
        discard next
        let w ← joined lookup live (o.level + 1) n
        if live then more lookup live level (← o.compute v w) n else more lookup live level w n
    | _ => return v

/-- Values of which all have to be true; behind one that is false none is evaluated. -/
def conjunction (lookup : Bytes → Bytes) (live : Bool) : Nat → Calc Int
  | 0 => throw .noPrimary
  | n + 1 => do
    let a ← joined lookup live 1 n
    if (← peek) ≠ some .and then return a
    else
      discard next
      let b ← conjunction lookup (live && a ≠ 0) n
      return ofBool (a ≠ 0 && b ≠ 0)

/-- Values of which one has to be true; behind one that is true none is evaluated. -/
def disjunction (lookup : Bytes → Bytes) (live : Bool) : Nat → Calc Int
  | 0 => throw .noPrimary
  | n + 1 => do
    let a ← conjunction lookup live n
    if (← peek) ≠ some .or then return a
    else
      discard next
      let b ← disjunction lookup (live && a = 0) n
      return ofBool (a ≠ 0 || b ≠ 0)

/-- A choice between two values, of which one is evaluated. -/
def choice (lookup : Bytes → Bytes) (live : Bool) : Nat → Calc Int
  | 0 => throw .noPrimary
  | n + 1 => do
    let a ← disjunction lookup live n
    if (← peek) ≠ some .question then return a
    else
      discard next
      let b ← assignment lookup (live && a ≠ 0) n
      if (← peek) ≠ some .colon then throw .noColon
      discard next
      let c ← choice lookup (live && a = 0) n
      return if a ≠ 0 then b else c

/-- A value, which a variable may take. -/
def assignment (lookup : Bytes → Bytes) (live : Bool) : Nat → Calc Int
  | 0 => throw .noPrimary
  | n + 1 => do
    match (← get).rest with
    | .name x :: .assign o :: rest =>
      modify fun p => { p with rest := rest }
      let v ← assignment lookup live n
      if !live then return v
      else
        let v ← match o with
          | some o => do o.compute (← valueOf lookup x) v
          | none => pure v
        modify fun p => { p with assigned := (x, v) :: p.assigned }
        return v
    | _ => choice lookup live n

end

/-- The value of an expression, and what it assigns, the latest last. -/
def value (lookup : Bytes → Bytes) (cs : Bytes) : Except ArithFault (Int × List (Bytes × Int)) := do
  let ts := tokens cs
  let (v, p) ← (assignment lookup true (8 * ts.length + 16)).run ⟨ts, []⟩
  if p.rest.isEmpty then return (v, p.assigned.reverse) else throw .notAtEnd

end Arith

end ActionTree.Sh
