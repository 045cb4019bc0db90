/-!
# Shell commands

The commands of a small shell, as the shell reads them. A shell works on bytes; here and in the
other modules of the shell a text is a list of characters below 256, one for each byte.

* `Piece`: a part of a word, which may have to be expanded.
* `Command`: a command, simple or compound.
* `SyntaxError`: why a text is no command.
-/

namespace ActionTree.Sh

/-- The bytes of a text, one character each. -/
abbrev Bytes := List Char

/-- Is a text the same as another one or before it, byte by byte? -/
def inOrder : Bytes → Bytes → Bool
  | [], _ => true
  | _ :: _, [] => false
  | a :: as, b :: bs => a < b || (a = b && inOrder as bs)

/-- Where a redirection leads. -/
inductive Direction where
  /-- A descriptor is read from a file. -/
  | fromFile
  /-- A descriptor is written to a file, at its start or at its end, even if the file should not be
  lost. -/
  | toFile (append forced : Bool)
  /-- A descriptor is read from a file and written to it. -/
  | both
  /-- A descriptor becomes a copy of another one. -/
  | copy
  /-- A descriptor is read from the lines that follow, perhaps without the tabs at their starts. -/
  | here (strip : Bool)
  deriving DecidableEq

mutual

/-- A part of a word. Only the results of parts that are not quoted are split into fields. -/
inductive Piece where
  /-- A character that stands for itself. -/
  | char (quoted : Bool) (c : Char)
  /-- A pair of quotes, which makes a field even if nothing is between them. -/
  | quotes
  /-- A parameter. -/
  | param (quoted : Bool) (name : Bytes) (use : ParamUse)
  /-- The output of a command. -/
  | output (quoted : Bool) (command : Command)
  /-- The value of an expression. -/
  | arith (quoted : Bool) (expression : List Piece)

/-- What a parameter is replaced by. A colon treats an empty value like a missing one. -/
inductive ParamUse where
  | value
  | length
  /-- The word in place of a missing value. -/
  | orElse (colon : Bool) (word : List Piece)
  /-- The word in place of a missing value, which the parameter takes on. -/
  | orAssign (colon : Bool) (word : List Piece)
  /-- The word if there is a value. -/
  | ifSet (colon : Bool) (word : List Piece)
  /-- An error if the value is missing. -/
  | orFail (colon : Bool) (word : List Piece)
  /-- The value without the shortest or the longest part, at its start or its end, that fits a
  pattern. -/
  | trim (atStart longest : Bool) (pattern : List Piece)
  /-- A form that is an error when it is reached. -/
  | bad

/-- A redirection of a descriptor. Its target is a path, a descriptor or the text that is read. -/
inductive Redirect where
  | mk (descriptor : Nat) (direction : Direction) (target : List Piece)

/-- A command. -/
inductive Command where
  | nothing
  /-- Assignments, words and redirections, and the line they stand on. -/
  | simple (line : Nat) (assignments : List (Bytes × List Piece)) (words : List (List Piece))
    (redirects : List Redirect)
  | pipe (first second : Command)
  | negated (c : Command)
  | andThen (first second : Command)
  | orElse (first second : Command)
  | seq (first second : Command)
  /-- A command that is not waited for. -/
  | background (c : Command)
  | subshell (line : Nat) (c : Command) (redirects : List Redirect)
  | group (line : Nat) (c : Command) (redirects : List Redirect)
  | cond (test body other : Command)
  /-- A loop that goes on while its test succeeds, or until it does. -/
  | loop (untilSuccess : Bool) (test body : Command)
  /-- A loop over words, or over the positional parameters. -/
  | each (line : Nat) (name : Bytes) (words : Option (List (List Piece))) (body : Command)
  /-- A choice between branches by the patterns that a word fits. -/
  | choose (line : Nat) (word : List Piece) (branches : List (List (List Piece) × Command))
  /-- The definition of a function. -/
  | define (name : Bytes) (body : Command)

end

/-- A word of a command. -/
abbrev Word := List Piece

instance : Inhabited Command := ⟨.nothing⟩

/-- Why a text is no command. -/
inductive Fault where
  /-- A token that cannot stand here, and what was expected. -/
  | unexpected (token : String) (expected : Option String)
  | unterminatedQuote
  | unterminatedBackquote
  | missingBrace
  | missingParens
  | badLoopVariable
  | badFunctionName
  deriving DecidableEq

/-- What is said of a fault. -/
def Fault.message : Fault → String
  | .unexpected token none => token ++ " unexpected"
  | .unexpected token (some expected) => token ++ " unexpected (expecting " ++ expected ++ ")"
  | .unterminatedQuote => "Unterminated quoted string"
  | .unterminatedBackquote => "EOF in backquote substitution"
  | .missingBrace => "Missing '\x7d'"
  | .missingParens => "Missing '))'"
  | .badLoopVariable => "Bad for loop variable"
  | .badFunctionName => "Bad function name"

/-- A fault with the text behind it. -/
structure SyntaxError where
  fault : Fault
  rest : Bytes
  deriving DecidableEq

/-- The words that are keywords at the start of a command. -/
def keywords : List String :=
  ["!", "case", "do", "done", "elif", "else", "esac", "fi", "for", "if", "in", "then", "until",
    "while", "\x7b", "\x7d"]

/-- The text of a word that has no quotes and nothing to expand. -/
def plainText? (w : Word) : Option Bytes :=
  w.mapM fun
    | .char false c => some c
    | _ => none

/-- The keyword that a word is. -/
def keyword? (w : Word) : Option String := do
  let s := String.ofList (← plainText? w)
  if keywords.contains s then some s else none

/-- Can a name start with the character? -/
def isNameStart (c : Char) : Bool := c.isAlpha || c = '_'

/-- Can a name contain the character? -/
def isNameChar (c : Char) : Bool := c.isAlphanum || c = '_'

/-- Is the text a name? -/
def isName : Bytes → Bool
  | [] => false
  | c :: cs => isNameStart c && cs.all isNameChar

/-- The commands of the shell whose assignments stay, whose redirections must succeed and whose
names no function can have. -/
def isReserved (name : Bytes) : Bool :=
  [".", ":", "break", "continue", "eval", "exec", "exit", "export", "local", "readonly", "return",
    "set", "shift", "times", "trap", "unset"].contains (String.ofList name)

/-- The name and the value of a word that is an assignment. -/
def assignment? (w : Word) : Option (Bytes × Word) :=
  go [] w
where
  /-- The name found so far, in reverse, and the rest of the word. -/
  go (name : Bytes) : Word → Option (Bytes × Word)
    | .char false c :: rest =>
      if c = '=' then (if isName name.reverse then some (name.reverse, rest) else none)
      else if isNameChar c then go (c :: name) rest
      else none
    | _ => none

end ActionTree.Sh
