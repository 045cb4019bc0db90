import ActionTree.Testing.Sh.Expression.Basic
import ActionTree.Testing.Sh.Format

/-!
# Regular expressions of scanning programs

The expressions of scanning programs have escapes, also between brackets. A bracket that closes
nothing stands for itself.

* `Expression.scanned`: the expression that a text is.
* `Expression.replaced`: a text in which what fits an expression is replaced.
-/

namespace ActionTree.Sh

/-- Why a text is no expression of a scanning program. -/
inductive ScanFault where
  | noOperand
  | openGroup
  | badSet
  | badInterval
  | anchorRepeated
  deriving DecidableEq

/-- What is said of a text that is no expression. -/
def ScanFault.message (f : ScanFault) (cs : Bytes) : Bytes :=
  let what := match f with
    | .noOperand => "missing operand"
    | .openGroup => "missing ')'"
    | .badSet => "bad class -- [], [^] or ["
    | .badInterval => "bad interval expression"
    | .anchorRepeated => "syntax error ^* or ^+"
  ("regular expression compile failed (" ++ what ++ ")\n").toList ++ cs

namespace Expression

/-- The character that stands behind a backslash, and what follows. -/
def scanEscape (c : Char) (rest : Bytes) : Char × Bytes :=
  match if c = 'e' then none else controlEscape? c with
  | some d => (d, rest)
  | none =>
    if isOctal c then
      let (code, out) := octal 3 0 (c :: rest)
      (byteChar code, out)
    else (c, rest)

/-- A text that is at most so long, in which characters that stand behind backslashes are marked. -/
def marked : Nat → Bytes → Marked
  | 0, _ => []
  | n + 1, cs =>
    match cs with
    | '\\' :: c :: rest =>
      let (d, out) := scanEscape c rest
      (true, d) :: marked n out
    | c :: rest => (false, c) :: marked n rest
    | [] => []

/-- The digits at the start of a marked text, and what follows. -/
def scanDigits (cs : Marked) : Bytes × Marked :=
  let ds := cs.takeWhile fun c => !c.1 && c.2.isDigit
  (ds.map (·.2), cs.drop ds.length)

/-- The bounds of a repetition and what follows. -/
def scanBounds? (cs : Marked) : Option (Nat × Option Nat × Marked) :=
  let (first, rest) := scanDigits cs
  match rest with
  | (false, '\x7d') :: out =>
    if first.isEmpty then none else some (Text.number first, some (Text.number first), out)
  | (false, ',') :: more =>
    let (second, rest) := scanDigits more
    match rest with
    | (false, '\x7d') :: out =>
      some (Text.number first, if second.isEmpty then none else some (Text.number second), out)
    | _ => none
  | _ => none

/-- Repetitions behind an expression. Of a repetition with two bounds only the first one counts if
it is more than 1. -/
def scanRepeats : Nat → Expression → Marked → Except ScanFault (Expression × Marked)
  | 0, e, cs => .ok (e, cs)
  | n + 1, e, cs =>
    match cs with
    | (false, '*') :: rest => scanRepeats n (.repeated 0 none e) rest
    | (false, '+') :: rest => scanRepeats n (.repeated 1 none e) rest
    | (false, '?') :: rest => scanRepeats n (.repeated 0 (some 1) e) rest
    | (false, '\x7b') :: (false, '\x7d') :: _ => .error .badInterval
    | (false, '\x7b') :: rest =>
      match scanBounds? rest with
      | some (least, most, out) =>
        scanRepeats n (.repeated least (if 1 < least then some least else most) e) out
      | none => .ok (e, cs)
    | _ => .ok (e, cs)

mutual

/-- Parts with bars between them, up to the end of a group, and what follows. -/
def scanParts : Nat → Nat → Marked → Except ScanFault (Expression × Marked)
  | 0, _, _ => .error .noOperand
  | n + 1, depth, cs => do
    let (first, rest) ← scanSequence n depth true cs
    match rest with
    | (false, '|') :: rest => do
      let (second, rest) ← scanParts n depth rest
      return (.either first second, rest)
    | rest => return (first, rest)

/-- Expressions in a row, up to a bar or the end of a group, and what follows. The first one must
not be missing. -/
def scanSequence : Nat → Nat → Bool → Marked → Except ScanFault (Expression × Marked)
  | 0, _, _, _ => .error .noOperand
  | n + 1, depth, isFirst, cs => do
    let followed (e : Expression) (rest : Marked) : Except ScanFault (Expression × Marked) := do
      let (e, rest) ← scanRepeats (rest.length + 1) e rest
      let (more, rest) ← scanSequence n depth false rest
      return (match more with
        | .empty => e
        | more => .seq e more, rest)
    let ended : Except ScanFault (Expression × Marked) :=
      if !isFirst then .ok (.empty, cs)
      else .error (if cs.isEmpty && 0 < depth then .openGroup else .noOperand)
    match cs with
    | [] | (false, '|') :: _ => ended
    | (false, ')') :: rest => if depth = 0 then followed (ofChar ')') rest else ended
    | (false, '(') :: (false, ')') :: rest =>
      if isFirst then throw .noOperand else followed .empty rest
    | (false, '(') :: rest => do
      let (e, rest) ← scanParts n (depth + 1) rest
      match rest with
      | (false, ')') :: rest => followed e rest
      | _ => throw .openGroup
    | (false, '*') :: _ | (false, '+') :: _ | (false, '?') :: _ => throw .noOperand
    | (false, '^') :: (false, '*') :: _ | (false, '^') :: (false, '+') :: _ =>
      throw .anchorRepeated
    | (false, '^') :: rest => followed (.anchor .textStart) rest
    | (false, '$') :: rest => followed (.anchor .textEnd) rest
    | (false, '.') :: rest => followed (.set ⟨true, []⟩) rest
    | (false, '[') :: rest => do
      match bracket? ['^'] rest with
      | some (s, out) => followed (.set s) out
      | none => throw .badSet
    | (_, c) :: rest => followed (ofChar c) rest

end

/-- The expression that a text is. -/
def scanned (cs : Bytes) : Except ScanFault Expression :=
  if cs.isEmpty then .ok .empty
  else (scanParts (4 * cs.length + 8) 0 (marked (cs.length + 1) cs)).map (·.1)

/-! ## Replacing -/

/-- What a match is replaced by, behind so many backslashes: `&` stands for the match. In front of
it two backslashes stand for one, and a single one takes its meaning away. -/
def replacementFrom (fit : Bytes) : Nat → Bytes → Bytes
  | n, '\\' :: rest => replacementFrom fit (n + 1) rest
  | n, '&' :: rest =>
    List.replicate (n / 2) '\\' ++ (if n % 2 = 0 then fit else ['&']) ++ replacementFrom fit 0 rest
  | n, c :: rest => List.replicate n '\\' ++ c :: replacementFrom fit 0 rest
  | n, [] => List.replicate n '\\'

/-- What a match is replaced by. -/
def replacement (fit new : Bytes) : Bytes := replacementFrom fit 0 new

/-- The places from one on that an expression fits, each with its end, at most so many. An empty fit
that touches the one before does not count. -/
def allFits (e : Expression) (s : Subject) : Nat → Nat → Option Nat → List (Nat × Nat)
  | 0, _, _ => []
  | n + 1, start, last =>
    match e.search s start with
    | none => []
    | some (i, f) =>
      if f.place = i then
        let more := if i < s.chars.size then allFits e s n (i + 1) last else []
        if last = some i then more else (i, i) :: more
      else (i, f.place) :: allFits e s n f.place (some f.place)

/-- The text from a place on in which what lies between some ends is replaced. -/
def filled (chars : Array Char) (new : Bytes) : Nat → List (Nat × Nat) → Bytes
  | start, [] => (chars.extract start chars.size).toList
  | start, (i, j) :: rest =>
    (chars.extract start i).toList ++ replacement (chars.extract i j).toList new
      ++ filled chars new j rest

/-- A text in which the first fit of an expression, or all of them, are replaced, and how many were.
An anchor at the start of a text fits only there. -/
def replaced (e : Expression) (all : Bool) (new cs : Bytes) : Bytes × Nat :=
  let s : Subject := ⟨cs.toArray, false, false⟩
  let fits := allFits e s (if all then cs.length + 2 else 1) 0 none
  if fits.isEmpty then (cs, 0) else (filled s.chars new 0 fits, fits.length)

end Expression

end ActionTree.Sh
