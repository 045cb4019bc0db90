import ActionTree.Testing.Sh.Expression.Reader

/-!
# Scripts that edit lines

A script is a row of commands. Each has a selection, which says for which lines it is carried out.

* `Edit.Command`: what is done with the line that is edited.
* `Edit.Selection`: the lines for which it is done.
* `Edit.Script`: commands with labels.
-/

namespace ActionTree.Sh.Edit

/-- A regular expression in a script. -/
structure Rule where
  expression : Expression
  ignoresCase : Bool
  hasLines : Bool

/-- What a line is chosen by. -/
inductive Address where
  | line (n : Nat)
  | last
  /-- A line and each one so many lines behind it. -/
  | every (first step : Nat)
  /-- The lines that an expression fits, which is the one used last if none is given. -/
  | fits (rule : Option Rule)

/-- Where a range of lines ends. -/
inductive Extent where
  | upTo (a : Address)
  | lines (n : Nat)
  /-- The next line whose number is a multiple. -/
  | multiple (n : Nat)

/-- The lines for which a command is carried out: all of them, some, or a range; or the others. -/
structure Selection where
  first : Option Address
  extent : Option Extent
  negated : Bool

/-- A change of letters. -/
inductive Casing where
  | plain
  | upper
  | lower
  /-- Only the next letter. -/
  | nextUpper
  | nextLower

/-- A piece of what a match is replaced by. -/
inductive Piece where
  | char (c : Char)
  | group (n : Nat)
  | casing (c : Casing)

/-- A replacement of what an expression fits. -/
structure Substitution where
  rule : Option Rule
  pieces : List Piece
  /-- The first match that is replaced, counted from 1. -/
  start : Nat
  /-- Are the matches behind it replaced too? -/
  all : Bool
  printed : Bool
  file : Option Bytes

/-- When a jump is made. -/
inductive Jump where
  | always
  /-- If something was replaced since the last line was read or the last such jump. -/
  | replaced
  | unreplaced

/-- What is done with the line that is edited. -/
inductive Command where
  /-- Commands up to a place are carried out only if this one is. -/
  | block (close : Nat)
  | close
  | jump (when : Jump) (label : Bytes)
  | append (text : Bytes)
  | insert (text : Bytes)
  | change (text : Bytes)
  | delete
  | deleteFirst
  | printNumber
  | printName
  | printEscaped (width : Option Nat)
  | print
  | printFirst
  | fetch
  | fetchMore
  | keep
  | keepMore
  | exchange
  | next
  | nextMore
  | quit (status : Nat) (silent : Bool)
  | readFile (name : Bytes)
  | readLine (name : Bytes)
  | write (name : Bytes)
  | writeFirst (name : Bytes)
  | substitute (s : Substitution)
  | translate (pairs : List (Char × Char))
  | clear

/-- A command with its selection. -/
structure Step where
  selection : Selection
  command : Command

/-- Commands with labels. -/
structure Script where
  steps : Array Step
  /-- Labels with the places that they stand for; of those with one name the first counts. -/
  labels : List (Bytes × Nat)
  /-- Are lines printed only when a command says so? -/
  silent : Bool

/-- The place that a label stands for; no label is the end. -/
def Script.target? (s : Script) (label : Bytes) : Option Nat :=
  if label.isEmpty then some s.steps.size
  else (s.labels.find? (·.1 = label)).map (·.2)

/-- The name of the output in a script. -/
def outputName : Bytes := "/dev/stdout".toList

/-- The files that a script writes to. -/
def Script.files (s : Script) : List Bytes :=
  (s.steps.toList.filterMap fun step => match step.command with
    | .write name | .writeFirst name => some name
    | .substitute sub => sub.file
    | _ => none).eraseDups.filter (· ≠ outputName)

end ActionTree.Sh.Edit
