import ActionTree.Testing.Sh.Syntax

/-!
# Patterns

A pattern of the shell is a text in which `*` stands for any text, `?` for any character and
brackets for one character of a set. Characters that are quoted stand for themselves.

* `Pattern.ofMarked`: the pattern of a text, each character with a mark that says whether it is
  quoted.
* `Pattern.accepts`: does a text as a whole fit a pattern?
* `Pattern.trimStart`, `Pattern.trimEnd`: a text without a part that fits a pattern.
-/

namespace ActionTree.Sh

/-- A set of characters: ranges with both ends, or all characters outside of them. -/
structure CharSet where
  negated : Bool
  ranges : List (Char × Char)
  deriving DecidableEq

namespace CharSet

/-- Is the character in the set? -/
def contains (s : CharSet) (c : Char) : Bool :=
  s.ranges.any (fun r => r.1 ≤ c && c ≤ r.2) != s.negated

/-- The ranges of a named class. -/
def named? (name : Bytes) : Option (List (Char × Char)) :=
  match String.ofList name with
  | "upper" => some [('A', 'Z')]
  | "lower" => some [('a', 'z')]
  | "digit" => some [('0', '9')]
  | "alpha" => some [('A', 'Z'), ('a', 'z')]
  | "alnum" => some [('0', '9'), ('A', 'Z'), ('a', 'z')]
  | "space" => some [('\t', '\r'), (' ', ' ')]
  | "blank" => some [('\t', '\t'), (' ', ' ')]
  | "punct" => some [('!', '/'), (':', '@'), ('[', '\x60'), ('\x7b', '~')]
  | "cntrl" => some [('\x00', '\x1f'), ('\x7f', '\x7f')]
  | "print" => some [(' ', '~')]
  | "graph" => some [('!', '~')]
  | "xdigit" => some [('0', '9'), ('A', 'F'), ('a', 'f')]
  | _ => none

end CharSet

/-- A text of which each character is marked as quoted or not. -/
abbrev Marked := List (Bool × Char)

/-- The ranges up to a closing bracket and the text behind it. A closing bracket at the start is an
ordinary character. -/
def bracketRanges (atStart : Bool) : Nat → Marked → Option (List (Char × Char) × Marked)
  | 0, _ => none
  | n + 1, cs =>
    match cs with
    | [] => none
    | (false, ']') :: rest =>
      if atStart then (bracketRanges false n rest).map fun (rs, out) => ((']', ']') :: rs, out)
      else some ([], rest)
    | (false, '[') :: (false, ':') :: rest =>
      let name := (rest.map (·.2)).takeWhile (· ≠ ':')
      match CharSet.named? name, rest.drop name.length with
      | some rs, (_, ':') :: (_, ']') :: rest =>
        (bracketRanges false n rest).map fun (more, out) => (rs ++ more, out)
      | _, _ =>
        (bracketRanges false n ((false, ':') :: rest)).map fun (rs, out) => (('[', '[') :: rs, out)
    | (_, a) :: (false, '-') :: (q, b) :: rest =>
      if b = ']' && !q then
        (bracketRanges false n ((q, b) :: rest)).map fun (rs, out) =>
          ((a, a) :: ('-', '-') :: rs, out)
      else (bracketRanges false n rest).map fun (rs, out) => ((a, b) :: rs, out)
    | (_, a) :: rest => (bracketRanges false n rest).map fun (rs, out) => ((a, a) :: rs, out)

/-- The set behind an opening bracket and the text behind the closing one. -/
def bracket? (negations : List Char) (cs : Marked) : Option (CharSet × Marked) :=
  match cs with
  | (false, c) :: rest =>
    if negations.contains c then
      (bracketRanges true (rest.length + 1) rest).map fun (rs, out) => (⟨true, rs⟩, out)
    else (bracketRanges true (cs.length + 1) cs).map fun (rs, out) => (⟨false, rs⟩, out)
  | cs => (bracketRanges true (cs.length + 1) cs).map fun (rs, out) => (⟨false, rs⟩, out)

/-- A part of a pattern. -/
inductive PatternPart where
  | char (c : Char)
  | any
  | run
  | set (s : CharSet)
  deriving DecidableEq

/-- A pattern. -/
abbrev Pattern := List PatternPart

namespace Pattern

/-- The pattern of a marked text that is at most so long. -/
def ofMarkedIn : Nat → Marked → Pattern
  | 0, _ => []
  | n + 1, cs =>
    match cs with
    | [] => []
    | (false, '*') :: rest => .run :: ofMarkedIn n rest
    | (false, '?') :: rest => .any :: ofMarkedIn n rest
    | (false, '[') :: rest =>
      match bracket? ['!'] rest with
      | some (s, out) => .set s :: ofMarkedIn n out
      | none => .char '[' :: ofMarkedIn n rest
    | (false, '\\') :: (_, c) :: rest => .char c :: ofMarkedIn n rest
    | (_, c) :: rest => .char c :: ofMarkedIn n rest

/-- The pattern of a marked text. -/
def ofMarked (cs : Marked) : Pattern := ofMarkedIn cs.length cs

/-- Does a text as a whole fit a pattern? -/
def accepts : Pattern → Bytes → Bool
  | [], cs => cs.isEmpty
  | .run :: ps, [] => accepts ps []
  | .run :: ps, c :: cs => accepts ps (c :: cs) || accepts (.run :: ps) cs
  | .char d :: ps, c :: cs => c == d && accepts ps cs
  | .any :: ps, _ :: cs => accepts ps cs
  | .set s :: ps, c :: cs => s.contains c && accepts ps cs
  | .char _ :: _, [] | .any :: _, [] | .set _ :: _, [] => false
termination_by ps cs => ps.length + cs.length

/-- The lengths from 0 to one, or the other way round. -/
def lengths (down : Bool) (n : Nat) : List Nat :=
  if down then (List.range (n + 1)).reverse else List.range (n + 1)

/-- A text without the shortest or the longest beginning that fits. -/
def trimStart (longest : Bool) (p : Pattern) (cs : Bytes) : Bytes :=
  match (lengths longest cs.length).find? fun k => accepts p (cs.take k) with
  | some k => cs.drop k
  | none => cs

/-- A text without the shortest or the longest end that fits. -/
def trimEnd (longest : Bool) (p : Pattern) (cs : Bytes) : Bytes :=
  match (lengths (!longest) cs.length).find? fun k => accepts p (cs.drop k) with
  | some k => cs.take k
  | none => cs

@[simp] theorem accepts_nil (cs : Bytes) : accepts [] cs = cs.isEmpty := by simp [accepts]

end Pattern

end ActionTree.Sh
