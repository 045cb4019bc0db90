import ActionTree.Testing.Sh.Pattern

/-!
# Regular expressions

An `Expression` describes texts. It fits a text from a place on up to all ends that
`Expression.ends` lists; of the first places at which it fits at all, the longest fit counts.

* `Expression.ends`: the ends of all fits from a place on.
* `Expression.search`: the first and longest fit.
-/

namespace ActionTree.Sh

/-- A place between characters. -/
inductive Anchor where
  | lineStart
  | lineEnd
  | textStart
  | textEnd
  | wordStart
  | wordEnd
  | wordEdge
  | noWordEdge
  deriving DecidableEq

/-- A regular expression. -/
inductive Expression where
  | empty
  | set (s : CharSet)
  | anchor (a : Anchor)
  /-- What a group fits. -/
  | again (group : Nat)
  | group (n : Nat) (e : Expression)
  | seq (first second : Expression)
  | either (first second : Expression)
  /-- An expression so many times at least, and at most if there is a bound. -/
  | repeated (least : Nat) (most : Option Nat) (e : Expression)

/-- What an expression is compared with: the characters, whether letters of both cases are the same,
and whether lines start and end within the text. -/
structure Subject where
  chars : Array Char
  ignoresCase : Bool
  hasLines : Bool

/-- A fit up to a place, with what the groups fit: their starts and ends, the latest first. -/
structure Fit where
  place : Nat
  groups : List (Nat × Nat × Nat)

namespace Subject

/-- The character at a place. -/
def char? (s : Subject) (i : Nat) : Option Char := s.chars[i]?

/-- Is the character a part of a word? -/
def isWord (c : Char) : Bool := c.isAlphanum || c = '_'

/-- Is there a part of a word in front of a place? -/
def wordBefore (s : Subject) (i : Nat) : Bool := 0 < i && (s.char? (i - 1)).any isWord

/-- Is there a part of a word behind a place? -/
def wordAfter (s : Subject) (i : Nat) : Bool := (s.char? i).any isWord

/-- Does a character belong to a set? -/
def accepts (s : Subject) (set : CharSet) (c : Char) : Bool :=
  if s.ignoresCase then
    let plain : CharSet := ⟨false, set.ranges⟩
    (plain.contains c.toLower || plain.contains c.toUpper || plain.contains c) != set.negated
  else set.contains c

/-- Does an anchor hold at a place? -/
def holds (s : Subject) (i : Nat) : Anchor → Bool
  | .lineStart => i = 0 || (s.hasLines && s.char? (i - 1) = some '\n')
  | .lineEnd => i = s.chars.size || (s.hasLines && s.char? i = some '\n')
  | .textStart => i = 0
  | .textEnd => i = s.chars.size
  | .wordStart => !s.wordBefore i && s.wordAfter i
  | .wordEnd => s.wordBefore i && !s.wordAfter i
  | .wordEdge => s.wordBefore i != s.wordAfter i
  | .noWordEdge => s.wordBefore i == s.wordAfter i

/-- How many characters from a place on, of so many at most, belong to a set. -/
def run (s : Subject) (set : CharSet) : Nat → Nat → Nat
  | 0, _ => 0
  | n + 1, i =>
    match s.char? i with
    | some c => if s.accepts set c then run s set n (i + 1) + 1 else 0
    | none => 0

/-- Are two parts of the text with so many characters the same? -/
def same (s : Subject) (i j n : Nat) : Bool :=
  let plain (c : Char) : Char := if s.ignoresCase then c.toLower else c
  (List.range n).all fun k => (s.char? (i + k)).map plain == (s.char? (j + k)).map plain

end Subject

namespace Fit

/-- What a group fits: its start and its end. -/
def group? (f : Fit) (n : Nat) : Option (Nat × Nat) := (f.groups.find? (·.1 = n)).map (·.2)

/-- Fits of which only the first for each place is kept. -/
def distinct (fits : List Fit) : List Fit :=
  let keep (acc : Nat × List Fit) (f : Fit) : Nat × List Fit :=
    if acc.1.testBit f.place then acc else (acc.1 ||| (1 <<< f.place), f :: acc.2)
  (fits.foldl keep (0, [])).2.reverse

end Fit

namespace Expression

/-- The characters between two ends. -/
def ofRange (a b : Char) : Expression := .set ⟨false, [(a, b)]⟩

/-- One character. -/
def ofChar (c : Char) : Expression := ofRange c c

/-- The expression that fits a text alone. -/
def ofText (cs : Bytes) : Expression := cs.foldr (fun c e => .seq (ofChar c) e) .empty

/-- Does an expression look back at what a group fits? -/
def looksBack : Expression → Bool
  | .again _ => true
  | .group _ e | .repeated _ _ e => looksBack e
  | .seq a b | .either a b => looksBack a || looksBack b
  | _ => false

/-- Goes on with a repetition as often as is possible, and says where it may end; places that were
reached before are not looked at again. -/
def goOn (step : Fit → List Fit) (least : Nat) (most : Option Nat) :
    Nat → Nat → Fit → List (Nat × Nat) × List Fit → List (Nat × Nat) × List Fit
  | 0, _, _, acc => acc
  | n + 1, count, f, (seen, out) =>
    let key := (if most.isSome then count else min count least, f.place)
    if seen.contains key then (seen, out)
    else
      let next :=
        if most.all (count < ·) then
          (step f).filter fun g => g.place ≠ f.place || count < least
        else []
      let (seen, out) := next.foldl (fun acc g => goOn step least most n (count + 1) g acc)
        (key :: seen, out)
      (seen, if least ≤ count then f :: out else out)

/-- The ends of all fits from a place on, those that take more first. -/
def ends (s : Subject) : Expression → Fit → List Fit
  | .empty, f => [f]
  | .set cs, f =>
    match s.char? f.place with
    | some c => if s.accepts cs c then [{ f with place := f.place + 1 }] else []
    | none => []
  | .anchor a, f => if s.holds f.place a then [f] else []
  | .again n, f =>
    match f.group? n with
    | none => []
    | some (i, j) => if s.same i f.place (j - i) && f.place + (j - i) ≤ s.chars.size then
        [{ f with place := f.place + (j - i) }]
      else []
  | .group n e, f =>
    (ends s e f).map fun g => { g with groups := (n, f.place, g.place) :: g.groups }
  | .seq a b, f => Fit.distinct ((ends s a f).flatMap (ends s b))
  | .either a b, f => Fit.distinct (ends s a f ++ ends s b f)
  | .repeated least most (.set cs), f =>
    let left := s.chars.size - f.place
    let n := s.run cs ((most.getD left).min left) f.place
    (List.range (n + 1 - least)).map fun k => { f with place := f.place + n - k }
  | .repeated least most e, f =>
    let fuel := s.chars.size + least + 2
    (goOn (ends s e) least most fuel 0 f ([], [])).2.reverse

/-- The longest of the fits. -/
def longest? (fits : List Fit) : Option Fit :=
  fits.foldl (fun best f => match best with
    | none => some f
    | some b => if b.place < f.place then some f else best) none

/-- The first place from a start on at which an expression fits in a way that is wanted, and the
longest of these fits. At most so many places are looked at. -/
def searchIn (e : Expression) (s : Subject) (wanted : Nat → Fit → Bool) :
    Nat → Nat → Option (Nat × Fit)
  | 0, _ => none
  | n + 1, i =>
    match longest? ((e.ends s ⟨i, []⟩).filter (wanted i)) with
    | some f => some (i, f)
    | none => searchIn e s wanted n (i + 1)

/-- The first and longest fit that starts at a place or behind it. -/
def search (e : Expression) (s : Subject) (start : Nat) : Option (Nat × Fit) :=
  searchIn e s (fun _ _ => true) (s.chars.size + 1 - start) start

end Expression

end ActionTree.Sh
