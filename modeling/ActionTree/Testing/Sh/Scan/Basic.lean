import ActionTree.Testing.Sh.Expression.Basic
import ActionTree.Testing.Sh.Scan.Value

/-!
# Scanning programs

A scanning program is a row of rules. For each record of its input, those rules are carried out
whose condition holds.

* `Scan.Term`: what has a value.
* `Scan.Statement`: what is done.
* `Scan.Program`: rules and functions.
-/

namespace ActionTree.Sh.Scan

/-- A variable: one of the program, or one of the function that is called. -/
inductive Name where
  | shared (i : Nat)
  | own (i : Nat)
  deriving DecidableEq

/-- A way to calculate with two numbers. -/
inductive Calculation where
  | plus
  | minus
  | times
  | quotient
  | rest
  | power
  deriving DecidableEq

/-- How two values may be ordered. -/
inductive Relation where
  | less
  | atMost
  | equal
  | unequal
  | atLeast
  | more
  deriving DecidableEq

/-- Where the text of `print` goes, if not to the output. -/
inductive Opening where
  | start
  | finish
  | command
  deriving DecidableEq

/-- Where records are read from, if not from the input. -/
inductive Origin where
  | file
  | command
  deriving DecidableEq

/-- A function that every program has. -/
inductive Tool where
  | angle
  | close
  | cosine
  | exponential
  | flush
  | position
  | whole
  | length
  | logarithm
  | search
  | instant
  | random
  | sine
  | layout
  | root
  | seed
  | moment
  | part
  | system
  | clock
  | lower
  | upper
  deriving DecidableEq

mutual

/-- What has a value. -/
inductive Term where
  | number (x : Binary64)
  | text (cs : Bytes)
  /-- Does an expression fit the record? -/
  | pattern (e : Expression)
  | place (p : Place)
  | assign (p : Place) (value : Term)
  | update (c : Calculation) (p : Place) (value : Term)
  /-- A place is counted up or down; the value is the one before or behind that. -/
  | count (p : Place) (up : Bool) (before : Bool)
  | calculate (c : Calculation) (first second : Term)
  | join (first second : Term)
  | relate (r : Relation) (first second : Term)
  | fits (negated : Bool) (text pattern : Term)
  | contains (table : Name) (keys : List Term)
  | not (t : Term)
  | opposite (t : Term)
  | positive (t : Term)
  | both (first second : Term)
  | either (first second : Term)
  | choose (condition yes no : Term)
  | call (function : Nat) (args : List Term)
  | apply (t : Tool) (args : List Term)
  | split (text : Term) (table : Name) (separator : Option Term)
  | replace (all : Bool) (pattern new : Term) (place : Option Place)
  | size (table : Name)
  | read (origin : Option (Origin × Term)) (into : Option Place)

/-- What a value is assigned to. -/
inductive Place where
  | name (n : Name)
  | field (t : Term)
  | cell (table : Name) (keys : List Term)

end

instance : Inhabited Term := ⟨.text []⟩

/-- What is done. -/
inductive Statement where
  | block (ss : List Statement)
  | term (t : Term)
  | print (args : List Term) (target : Option (Opening × Term))
  | layout (args : List Term) (target : Option (Opening × Term))
  | branch (condition : Term) (yes : Statement) (no : Option Statement)
  | loop (condition : Term) (body : Statement)
  | loopOnce (body : Statement) (condition : Term)
  | steps (first condition next : Option Term) (body : Statement)
  | each (p : Name) (table : Name) (body : Statement)
  | delete (table : Name) (keys : Option (List Term))
  | next
  | nextFile
  | leave
  | again
  | stop (status : Option Term)
  | answer (value : Option Term)

instance : Inhabited Statement := ⟨.block []⟩

/-- When a rule is carried out. -/
inductive Occasion where
  | always
  | when (t : Term)
  /-- From a record for which one term holds to one for which another does. -/
  | between (first last : Term)

/-- A rule. -/
structure Rule where
  occasion : Occasion
  body : Statement

/-- A function of a program. -/
structure Function where
  name : Bytes
  /-- For each of its variables, whether it is a table; the first ones are its parameters. -/
  tables : Array Bool
  body : Statement

instance : Inhabited Function := ⟨⟨[], #[], default⟩⟩

/-- A scanning program. -/
structure Program where
  first : List Statement
  rules : List Rule
  last : List Statement
  functions : Array Function
  /-- The names of its variables. -/
  names : Array Bytes

/-- The variables that each program has, in the order of their numbers. -/
def settings : List String :=
  ["NF", "NR", "FNR", "FS", "OFS", "ORS", "RS", "SUBSEP", "CONVFMT", "OFMT", "RSTART", "RLENGTH",
    "FILENAME", "ENVIRON", "ARGC", "ARGV"]

/-- The number of a variable that each program has. -/
def setting (name : String) : Nat := settings.idxOf name

end ActionTree.Sh.Scan
