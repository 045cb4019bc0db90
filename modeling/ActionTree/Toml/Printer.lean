import ActionTree.Binary.Shortest

/-!
# Writing TOML

A `Toml.Section` is a table as it is written: keys with plain values first, then sub-tables, each
under its own header. An array of several items has an item a line.

In the program: its TOML writer.

* `Toml.quote`: a string between quotation marks if that needs no escape, else in the first form
  that can hold it unescaped, else with escapes.
* `Toml.write`: the text of a table.
-/

namespace ActionTree.Toml

/-- A value on the right of a key. -/
inductive Scalar where
  | bool (b : Bool)
  | int (n : Nat)
  | float (x : Binary64)
  | str (s : String)
  | strs (ss : List String)

/-- A table as it is written. -/
inductive Section where
  | mk (values : List (String × Scalar)) (tables : List (String × Section))
    (arrays : List (String × List Section))

/-! ## Strings -/

/-- The longest run of a character. -/
def longestRun (c : Char) (cs : List Char) : Nat :=
  (cs.foldl (fun (best, run) d => if d = c then (max best (run + 1), run + 1) else (best, 0))
    (0, 0)).1

/-- Is it a control character that a string cannot hold unescaped? -/
def isControl (c : Char) : Bool := (c.toNat < 32 && c ≠ '\t' && c ≠ '\n') || c.toNat = 127

/-- A hexadecimal digit in upper case. -/
def hexDigit (n : Nat) : Char := ((Nat.toDigits 16 n).headD '0').toUpper

/-- A character of a string between quotation marks; line feeds stay in strings of several lines. -/
def escapeChar (severalLines : Bool) (c : Char) : List Char :=
  if c = '\x08' then ['\\', 'b']
  else if c = '\t' then ['\\', 't']
  else if c = '\n' then (if severalLines then ['\n'] else ['\\', 'n'])
  else if c = '\x0c' then ['\\', 'f']
  else if c = '\r' then ['\\', 'r']
  else if c = '\\' then ['\\', '\\']
  else if c.toNat < 32 ∨ c.toNat = 127 then
    ['\\', 'u', '0', '0', hexDigit (c.toNat / 16), hexDigit (c.toNat % 16)]
  else [c]

/-- The characters of a string between quotation marks, of which at most so many in a row stay
unescaped; `run` are those just before. An escape starts a new run. -/
def escapeAll (severalLines : Bool) (most run : Nat) : List Char → List Char
  | [] => []
  | c :: cs =>
    if c = '"' then
      if most ≤ run then '\\' :: '"' :: escapeAll severalLines most 0 cs
      else '"' :: escapeAll severalLines most (run + 1) cs
    else escapeChar severalLines c ++ escapeAll severalLines most 0 cs

/-- The forms of a string. -/
inductive StringForm where
  | basic
  | literal
  | basicLines
  | literalLines
  deriving DecidableEq

/-- The form that a string is written in. -/
def formOf (cs : List Char) : StringForm :=
  let controls := cs.any isControl
  let backslash := cs.contains '\\'
  let breaks := cs.contains '\n'
  let doubles := longestRun '"' cs
  let singles := longestRun '\x27' cs
  if !controls && !backslash && doubles = 0 && !breaks then .basic
  else if !controls && singles = 0 && !breaks then .literal
  else if !controls && !backslash && doubles ≤ 2 then .basicLines
  else if !controls && singles ≤ 2 then .literalLines
  else if breaks then .basicLines
  else .basic

/-- The line end behind the opening marks, which a string of several lines starts with if it does
have several lines. -/
def opening (cs : List Char) : List Char := if cs.contains '\n' then ['\n'] else []

/-- A string in a form. -/
def inForm (cs : List Char) : StringForm → List Char
  | .basic => '"' :: escapeAll false 0 0 cs ++ ['"']
  | .literal => '\x27' :: cs ++ ['\x27']
  | .basicLines => "\"\"\"".toList ++ opening cs ++ escapeAll true 2 0 cs ++ "\"\"\"".toList
  | .literalLines => "\x27\x27\x27".toList ++ opening cs ++ cs ++ "\x27\x27\x27".toList

/-- A string as it is written. -/
def quote (s : String) : String := String.ofList (inForm s.toList (formOf s.toList))

/-- Does a key need no quotes? -/
def isBareKey (cs : List Char) : Bool :=
  !cs.isEmpty && cs.all fun c => c.isAlphanum || c = '_' || c = '-'

/-- A key as it is written. -/
def key (s : String) : String :=
  let cs := s.toList
  let controls := cs.any isControl || cs.contains '\n'
  let form : StringForm :=
    if controls then .basic
    else if !cs.contains '\\' && !cs.contains '"' then .basic
    else if !cs.contains '\x27' then .literal
    else .basic
  if isBareKey cs then s else String.ofList (inForm cs form)

/-! ## Values and tables -/

/-- Numbers are written without an exponent. -/
def numberLayout : Layout := ⟨-400, 400, false⟩

/-- The text of a floating-point number. -/
def floatText (x : Binary64) : String :=
  if x.isFinite then String.ofList (numberLayout.text x)
  else
    let name := if x.isInfinite then "inf" else "nan"
    if x.negative then "-" ++ name else name

/-- The text of a value. -/
def scalarText : Scalar → String
  | .bool b => if b then "true" else "false"
  | .int n => toString n
  | .float x => floatText x
  | .str s => quote s
  | .strs [] => "[]"
  | .strs [s] => "[" ++ quote s ++ "]"
  | .strs ss => "[\n" ++ String.join (ss.map fun s => "    " ++ quote s ++ ",\n") ++ "]"

/-- The lines of plain values. -/
def valueLines (values : List (String × Scalar)) : List String :=
  values.map fun v => key v.1 ++ " = " ++ scalarText v.2 ++ "\n"

/-- A dotted path. -/
def pathText (path : List String) : String := ".".intercalate (path.map key)

mutual

/-- The blocks of a table at a path; blank lines stand between blocks. -/
def blocks (path : List String) (header : Option String) : Section → List String
  | .mk values tables arrays =>
    let lines := valueLines values
    let own := match header with
      | some h => [h ++ "\n" ++ String.join lines]
      | none => if lines.isEmpty then [] else [String.join lines]
    own ++ tableBlocks path tables ++ arrayBlocks path arrays

/-- The blocks of sub-tables. -/
def tableBlocks (path : List String) : List (String × Section) → List String
  | [] => []
  | (k, t) :: rest =>
    blocks (path ++ [k]) (some ("[" ++ pathText (path ++ [k]) ++ "]")) t ++ tableBlocks path rest

/-- The blocks of several tables under one header each. -/
def arrayBlocks (path : List String) : List (String × List Section) → List String
  | [] => []
  | (k, ts) :: rest =>
    manyBlocks (path ++ [k]) ("[[" ++ pathText (path ++ [k]) ++ "]]") ts ++ arrayBlocks path rest

/-- The blocks of tables under the same header. -/
def manyBlocks (path : List String) (header : String) : List Section → List String
  | [] => []
  | t :: rest => blocks path (some header) t ++ manyBlocks path header rest

end

/-- The text of a table. -/
def write (t : Section) : String := "\n".intercalate (blocks [] none t)

end ActionTree.Toml
