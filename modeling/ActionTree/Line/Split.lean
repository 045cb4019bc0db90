/-!
# Splitting a line at its arrows

An arrow `->` separates the steps of a line where it stands outside of every bracket and every
string literal. The scan knows its bracket depth and whether it is inside a string; it fails at a
closing bracket that nothing opened, and at the end inside a string or an open bracket.

In the program: `split_chain` (`pieces?`).

* `Scan.step`: what one character does to the scan.
* `pieces?`: the pieces between the arrows, nothing trimmed.
* `joinArrows`: pieces with arrows between them, the way back.
-/

namespace ActionTree

/-- Where a scan of a line is. -/
structure Scan where
  /-- Open brackets. The program counts them in 32 bits, which is the same for all texts with fewer
  than 2^31 of them. -/
  depth : Nat
  /-- Inside a string literal? -/
  inString : Bool
  /-- Behind a backslash in a string literal? -/
  escaped : Bool
  deriving DecidableEq

namespace Scan

/-- Outside of everything. -/
def start : Scan := ⟨0, false, false⟩

/-- The scan behind one more character; no scan goes on behind a bracket that closes nothing. -/
def step (s : Scan) (c : Char) : Option Scan :=
  if s.inString then
    if s.escaped then some { s with escaped := false }
    else if c = '\\' then some { s with escaped := true }
    else if c = '"' then some { s with inString := false }
    else some s
  else if c = '"' then some { s with inString := true }
  else if c = '\x7b' ∨ c = '[' then some { s with depth := s.depth + 1 }
  else if c = '\x7d' ∨ c = ']' then
    if s.depth = 0 then none else some { s with depth := s.depth - 1 }
  else some s

/-- Outside of brackets and strings an arrow separates, and the text may end. -/
def isOpen (s : Scan) : Bool := s.depth == 0 && !s.inString

/-- The scan behind a text. -/
def run (s : Scan) : List Char → Option Scan
  | [] => some s
  | c :: cs => (s.step c).bind (run · cs)

end Scan

/-- A character put in front of the first piece. -/
def pushPiece (c : Char) : List (List Char) → List (List Char)
  | [] => [[c]]
  | p :: ps => (c :: p) :: ps

/-- The pieces of a text from a scan on. -/
def piecesFrom (s : Scan) : List Char → Option (List (List Char))
  | [] => if s.isOpen then some [[]] else none
  | [c] =>
    match s.step c with
    | some t => if t.isOpen then some [[c]] else none
    | none => none
  | c :: d :: rest =>
    if c = '-' ∧ d = '>' ∧ s.isOpen then (piecesFrom s rest).map ([] :: ·)
    else match s.step c with
      | some t => (piecesFrom t (d :: rest)).map (pushPiece c)
      | none => none

/-- The pieces of a text between its arrows. -/
def pieces? (cs : List Char) : Option (List (List Char)) := piecesFrom .start cs

/-- Pieces with arrows between them. -/
def joinArrows : List (List Char) → List Char
  | [] => []
  | [p] => p
  | p :: q :: rest => p ++ '-' :: '>' :: joinArrows (q :: rest)

end ActionTree
