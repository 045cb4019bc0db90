import ActionTree.Json.Basic
import ActionTree.Binary.Shortest

/-!
# The text of JSON values

In the program: its compact and its pretty JSON writer, and `render` of the references
(`Json.inText`).

* `Json.compact`: without blanks. Strings are escaped no more than JSON demands.
* `Json.pretty`: an item a line, two blanks a level; an empty array or object is `[]` or `{}`.
* `Json.inText`: how a value appears inside a longer text: a string as it is, other values compact.
-/

namespace ActionTree

namespace Json

/-- Numbers are written without an exponent if their first digit stands for `10^-5` to `10^15`. -/
def numberLayout : Layout := ⟨-5, 15, true⟩

/-- A hexadecimal digit in lower case. -/
def hexDigit (n : Nat) : Char := (Nat.toDigits 16 n).headD '0'

/-- A character inside a string literal. -/
def escapeChar (c : Char) : List Char :=
  if c = '"' then ['\\', '"']
  else if c = '\\' then ['\\', '\\']
  else if c = '\x08' then ['\\', 'b']
  else if c = '\x0c' then ['\\', 'f']
  else if c = '\n' then ['\\', 'n']
  else if c = '\r' then ['\\', 'r']
  else if c = '\t' then ['\\', 't']
  else if c.toNat < 32 then
    ['\\', 'u', '0', '0', hexDigit (c.toNat / 16), hexDigit (c.toNat % 16)]
  else [c]

/-- A string literal. -/
def quote (s : String) : String :=
  String.ofList ('"' :: (s.toList.flatMap escapeChar ++ ['"']))

/-- The text of a floating-point number; JSON has none for infinity, which becomes null. -/
def floatText (x : Binary64) : String :=
  if x.isFinite then String.ofList (numberLayout.text x) else "null"

mutual

/-- The text of a value without blanks. -/
def compact : Json → String
  | .null => "null"
  | .bool b => if b then "true" else "false"
  | .int i => toString i
  | .float x => floatText x
  | .str s => quote s
  | .arr items => "[" ++ compactItems items ++ "]"
  | .obj members => "\x7b" ++ compactMembers members ++ "\x7d"

/-- Items, with commas between them. -/
def compactItems : List Json → String
  | [] => ""
  | [v] => compact v
  | v :: w :: rest => compact v ++ "," ++ compactItems (w :: rest)

/-- Members, with commas between them. -/
def compactMembers : List (String × Json) → String
  | [] => ""
  | [(k, v)] => quote k ++ ":" ++ compact v
  | (k, v) :: m :: rest => quote k ++ ":" ++ compact v ++ "," ++ compactMembers (m :: rest)

end

/-- The start of a line, some levels deep. -/
def indent (level : Nat) : String := String.ofList ('\n' :: List.replicate (2 * level) ' ')

mutual

/-- The text of a value over several lines, from a level on. -/
def prettyAt (level : Nat) : Json → String
  | .arr [] => "[]"
  | .arr (v :: rest) =>
    "[" ++ indent (level + 1) ++ prettyItems (level + 1) (v :: rest) ++ indent level ++ "]"
  | .obj [] => "\x7b\x7d"
  | .obj (m :: rest) =>
    "\x7b" ++ indent (level + 1) ++ prettyMembers (level + 1) (m :: rest) ++ indent level ++ "\x7d"
  | .null => "null"
  | .bool b => if b then "true" else "false"
  | .int i => toString i
  | .float x => floatText x
  | .str s => quote s

/-- Items, an item a line. -/
def prettyItems (level : Nat) : List Json → String
  | [] => ""
  | [v] => prettyAt level v
  | v :: w :: rest => prettyAt level v ++ "," ++ indent level ++ prettyItems level (w :: rest)

/-- Members, a member a line. -/
def prettyMembers (level : Nat) : List (String × Json) → String
  | [] => ""
  | [(k, v)] => quote k ++ ": " ++ prettyAt level v
  | (k, v) :: m :: rest =>
    quote k ++ ": " ++ prettyAt level v ++ "," ++ indent level ++ prettyMembers level (m :: rest)

end

/-- The text of a value over several lines. -/
def pretty (v : Json) : String := prettyAt 0 v

/-- A value inside a longer text: a string as it is, any other value as compact JSON. -/
def inText : Json → String
  | .str s => s
  | v => compact v

end Json

end ActionTree
