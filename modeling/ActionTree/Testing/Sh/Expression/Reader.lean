import ActionTree.Testing.Sh.Arith
import ActionTree.Testing.Sh.Expression.Basic

/-!
# Reading regular expressions

There are two ways to write a regular expression: in the basic one operators stand behind
backslashes, in the extended one they do not.

* `Expression.read`: the expression that a text is.
-/

namespace ActionTree.Sh

/-- How expressions are written. -/
structure Dialect where
  extended : Bool
  /-- Are operators that have nothing to work on no fault? -/
  lenient : Bool

/-- Why a text is no expression. -/
inductive ExpressionFault where
  | openGroup
  | closedGroup
  | openBracket
  | emptyBracket
  | openBrace
  | badBrace
  | tooBig
  | badRange
  | badClass
  | badCollation
  | noGroup
  | nothingRepeated
  | backslash
  deriving DecidableEq

/-- What is said of a fault. -/
def ExpressionFault.message : ExpressionFault → Bytes
  | .openGroup => "Unmatched ( or \\(".toList
  | .closedGroup => "Unmatched ) or \\)".toList
  | .openBracket => "Unmatched [, [^, [:, [., or [=".toList
  | .emptyBracket => "Invalid regular expression".toList
  | .openBrace => "Unmatched \\\x7b".toList
  | .badBrace => "Invalid content of \\\x7b\\\x7d".toList
  | .tooBig => "Regular expression too big".toList
  | .badRange => "Invalid range end".toList
  | .badClass => "Invalid character class name".toList
  | .badCollation => "Invalid collation character".toList
  | .noGroup => "Invalid back reference".toList
  | .nothingRepeated => "Invalid preceding regular expression".toList
  | .backslash => "Trailing backslash".toList

namespace Expression

/-! ## Sets between brackets -/

/-- An element of a set: a character, or the ranges of a class. -/
inductive Element where
  | char (c : Char)
  | ranges (rs : List (Char × Char))

/-- The text up to a mark and a bracket, and what is behind them. -/
def upToMark? (mark : Char) : Bytes → Bytes → Option (Bytes × Bytes)
  | done, a :: b :: rest =>
    if a = mark && b = ']' then some (done.reverse, rest)
    else upToMark? mark (a :: done) (b :: rest)
  | _, _ => none

/-- The next element of a set. -/
def element : Bytes → Except ExpressionFault (Element × Bytes)
  | '[' :: ':' :: rest =>
    match upToMark? ':' [] rest with
    | some (name, out) =>
      match CharSet.named? name with
      | some rs => .ok (.ranges rs, out)
      | none => .error .badClass
    | none => .error .openBracket
  | '[' :: mark :: rest =>
    if mark = '=' || mark = '.' then
      match upToMark? mark [] rest with
      | some ([c], out) => .ok (.char c, out)
      | some _ => .error .badCollation
      | none => .error .openBracket
    else .ok (.char '[', mark :: rest)
  | c :: rest => .ok (.char c, rest)
  | [] => .error .openBracket

/-- The ranges of a set that is at most so long. -/
def ranges (isFirst : Bool) : Nat → Bytes → Except ExpressionFault (List (Char × Char) × Bytes)
  | 0, _ => .error .openBracket
  | n + 1, cs =>
    match cs, isFirst with
    | [], _ => .error .openBracket
    | ']' :: rest, false => .ok ([], rest)
    | cs, _ => do
      let (e, rest) ← element cs
      match e, rest with
      | .ranges rs, rest => do
        let (more, out) ← ranges false n rest
        return (rs ++ more, out)
      | .char a, '-' :: c :: more =>
        if c = ']' then do
          let (tail, out) ← ranges false n ('-' :: c :: more)
          return ((a, a) :: tail, out)
        else
          match ← element (c :: more) with
          | (.ranges _, _) => .error .badRange
          | (.char b, rest) =>
            if b < a then .error .badRange
            else
              let (tail, out) ← ranges false n rest
              return ((a, b) :: tail, out)
      | .char a, rest => do
        let (tail, out) ← ranges false n rest
        return ((a, a) :: tail, out)

/-- The set behind an opening bracket. -/
def bracket (cs : Bytes) : Except ExpressionFault (Expression × Bytes) := do
  let (negated, cs) : Bool × Bytes := match cs with
    | '^' :: rest => (true, rest)
    | cs => (false, cs)
  if cs.isEmpty then throw .emptyBracket
  let (rs, rest) ← ranges true (cs.length + 1) cs
  return (.set ⟨negated, rs⟩, rest)

/-! ## Tokens -/

/-- A part of a written expression. -/
inductive Token where
  | atom (e : Expression)
  | anchor (a : Anchor)
  | back (n : Nat)
  | opening
  | closing
  | bar
  | star
  | plus
  | question
  | brace
  | caret
  | dollar

/-- The characters of words. -/
def wordRanges : List (Char × Char) := [('0', '9'), ('A', 'Z'), ('_', '_'), ('a', 'z')]

/-- The blank characters. -/
def spaceRanges : List (Char × Char) := [('\t', '\r'), (' ', ' ')]

/-- The token that a backslash with a character is, if it is the same in both ways to write. -/
def escaped (c : Char) : Token :=
  match c with
  | 'w' => .atom (.set ⟨false, wordRanges⟩)
  | 'W' => .atom (.set ⟨true, wordRanges⟩)
  | 's' => .atom (.set ⟨false, spaceRanges⟩)
  | 'S' => .atom (.set ⟨true, spaceRanges⟩)
  | 'b' => .anchor .wordEdge
  | 'B' => .anchor .noWordEdge
  | '<' => .anchor .wordStart
  | '>' => .anchor .wordEnd
  | '\x60' => .anchor .textStart
  | '\x27' => .anchor .textEnd
  | c => if '1' ≤ c && c ≤ '9' then .back (c.toNat - '0'.toNat) else .atom (ofChar c)

/-- The next token. -/
def token (extended : Bool) : Bytes → Except ExpressionFault (Option (Token × Bytes))
  | [] => .ok none
  | ['\\'] => .error .backslash
  | '\\' :: c :: rest =>
    let own (t : Token) : Except ExpressionFault (Option (Token × Bytes)) :=
      .ok (some (if extended then .atom (ofChar c) else t, rest))
    match c with
    | '(' => own .opening
    | ')' => own .closing
    | '|' => own .bar
    | '+' => own .plus
    | '?' => own .question
    | '\x7b' => own .brace
    | c => .ok (some (escaped c, rest))
  | '[' :: rest => do
    let (e, out) ← bracket rest
    return some (.atom e, out)
  | c :: rest =>
    let own (t : Token) : Except ExpressionFault (Option (Token × Bytes)) :=
      .ok (some (if extended then t else .atom (ofChar c), rest))
    match c with
    | '.' => .ok (some (.atom (.set ⟨true, []⟩), rest))
    | '*' => .ok (some (.star, rest))
    | '^' => .ok (some (.caret, rest))
    | '$' => .ok (some (.dollar, rest))
    | '(' => own .opening
    | ')' => own .closing
    | '|' => own .bar
    | '+' => own .plus
    | '?' => own .question
    | '\x7b' => own .brace
    | c => .ok (some (.atom (ofChar c), rest))

/-! ## Structure -/

/-- What is left to be read, how many groups were opened, and which of them are closed. -/
structure Reading where
  rest : Bytes
  opened : Nat
  closed : List Nat

/-- A computation that reads. -/
abbrev Reader (α : Type) := StateT Reading (Except ExpressionFault) α

/-- The next token, which is not taken yet, and what is behind it. -/
def peek (d : Dialect) : Reader (Option (Token × Bytes)) := do token d.extended (← get).rest

/-- Goes on behind a token. -/
def goTo (rest : Bytes) : Reader Unit := modify fun r => { r with rest := rest }

/-- The greatest number of repetitions. -/
def mostRepeats : Nat := 32767

/-- The bounds of a repetition and what is behind them, if they are well formed. -/
def bounds? (extended : Bool) (cs : Bytes) : Option (Nat × Option Nat × Bytes) :=
  let first := cs.takeWhile Char.isDigit
  let rest := cs.drop first.length
  let close? (cs : Bytes) : Option Bytes := match extended, cs with
    | true, '\x7d' :: out => some out
    | false, '\\' :: '\x7d' :: out => some out
    | _, _ => none
  match rest with
  | ',' :: more =>
    let second := more.takeWhile Char.isDigit
    (close? (more.drop second.length)).map fun out =>
      (Text.number first, if second.isEmpty then none else some (Text.number second), out)
  | rest =>
    if first.isEmpty then none
    else (close? rest).map fun out => (Text.number first, some (Text.number first), out)

/-- Repetitions behind an expression. -/
def repeats (d : Dialect) : Nat → Expression → Reader Expression
  | 0, e => return e
  | n + 1, e => do
    match ← peek d with
    | some (.star, rest) => do
      goTo rest
      repeats d n (.repeated 0 none e)
    | some (.plus, rest) => do
      goTo rest
      repeats d n (.repeated 1 none e)
    | some (.question, rest) => do
      goTo rest
      repeats d n (.repeated 0 (some 1) e)
    | some (.brace, rest) =>
      match bounds? d.extended rest with
      | some (least, most, out) =>
        if most.any (· < least) then throw .badBrace
        if mostRepeats < max least (most.getD 0) then throw .tooBig
        goTo out
        repeats d n (.repeated least most e)
      | none =>
        if d.extended && d.lenient then return e
        else
          let isOpen := rest.all fun c => c.isDigit || c = ','
          throw (if isOpen then .openBrace else .badBrace)
    | _ => return e

/-- Does a dollar sign stand at the end of an expression or of a part of it? -/
def isAtEnd (rest : Bytes) : Bool :=
  match rest with
  | [] | '\\' :: ')' :: _ | '\\' :: '|' :: _ => true
  | _ => false

mutual

/-- Parts with bars between them, up to the end of the group. -/
def parts (d : Dialect) : Nat → Bool → Reader Expression
  | 0, _ => throw .tooBig
  | n + 1, inGroup => do
    let before := (← get).closed
    let first ← sequence d n inGroup true
    match ← peek d with
    | some (.bar, rest) => do
      let after := (← get).closed
      modify fun r => { r with rest := rest, closed := before }
      let second ← parts d n inGroup
      modify fun r => { r with closed := after ++ r.closed }
      return .either first second
    | _ => return first

/-- Expressions in a row, up to a bar or the end of the group. -/
def sequence (d : Dialect) : Nat → Bool → Bool → Reader Expression
  | 0, _, _ => throw .tooBig
  | n + 1, inGroup, isFirst => do
    let followed (e : Expression) : Reader Expression := do
      let more ← sequence d n inGroup false
      return match more with
        | .empty => e
        | more => .seq e more
    let single (c : Char) (rest : Bytes) : Reader Expression := do
      goTo rest
      followed (← repeats d n (ofChar c))
    let operator (c : Char) (rest : Bytes) : Reader Expression :=
      if !d.extended then single c rest
      else if d.lenient then do
        goTo rest
        sequence d n inGroup isFirst
      else throw .nothingRepeated
    match ← peek d with
    | none | some (.bar, _) => return .empty
    | some (.closing, rest) =>
      if inGroup then return .empty
      else if d.extended && d.lenient then single ')' rest
      else throw .closedGroup
    | some (.atom e, rest) => do
      goTo rest
      followed (← repeats d n e)
    | some (.anchor a, rest) => do
      goTo rest
      followed (.anchor a)
    | some (.back k, rest) => do
      if !(← get).closed.contains k then throw .noGroup
      goTo rest
      followed (← repeats d n (.again k))
    | some (.caret, rest) =>
      if d.extended || isFirst then do
        goTo rest
        followed (.anchor .lineStart)
      else single '^' rest
    | some (.dollar, rest) =>
      if d.extended || isAtEnd rest then do
        goTo rest
        followed (.anchor .lineEnd)
      else single '$' rest
    | some (.star, rest) => operator '*' rest
    | some (.plus, rest) => operator '+' rest
    | some (.question, rest) => operator '?' rest
    | some (.brace, rest) =>
      if d.extended && d.lenient then single '\x7b' rest else throw .nothingRepeated
    | some (.opening, rest) => do
      let k := (← get).opened + 1
      modify fun r => { r with rest := rest, opened := k }
      let inner ← parts d n true
      match ← peek d with
      | some (.closing, out) => do
        modify fun r => { r with rest := out, closed := k :: r.closed }
        followed (← repeats d n (.group k inner))
      | _ => throw .openGroup

end

/-- The expression that a text is, and the number of its groups. -/
def read (d : Dialect) (cs : Bytes) : Except ExpressionFault (Expression × Nat) := do
  let (e, r) ← (parts d (2 * cs.length + 4) false).run ⟨cs, 0, []⟩
  return (e, r.opened)

end Expression

end ActionTree.Sh
