import ActionTree.Text.Hidden

/-!
# Quoted text and summaries

`quoted` puts a text between quotation marks so that it can be told from every other: quotation
marks and backslashes are escaped, and so are all characters without a glyph of their own. Summaries
are made of quoted texts: records, lists, tables and optional values, each on one line.

In the program: its debug texts.
-/

namespace ActionTree.Text

/-- A character inside of quotation marks. -/
def quotedChar (c : Char) : List Char :=
  if c = '\x00' then ['\\', '0']
  else if c = '\t' then ['\\', 't']
  else if c = '\r' then ['\\', 'r']
  else if c = '\n' then ['\\', 'n']
  else if c = '"' ∨ c = '\\' then ['\\', c]
  else if isHidden c then '\\' :: 'u' :: '\x7b' :: (Nat.toDigits 16 c.toNat ++ ['\x7d'])
  else [c]

/-- A text between quotation marks. -/
def quoted (s : String) : String := String.ofList ('"' :: (s.toList.flatMap quotedChar ++ ['"']))

/-- A record on one line: its name and what each of its members is. -/
def recordLine (name : String) (members : List (String × String)) : String :=
  name ++ " \x7b " ++ ", ".intercalate (members.map fun m => m.1 ++ ": " ++ m.2) ++ " \x7d"

/-- A list on one line. -/
def listLine (items : List String) : String := "[" ++ ", ".intercalate items ++ "]"

/-- A table on one line. -/
def tableLine (members : List (String × String)) : String :=
  "\x7b" ++ ", ".intercalate (members.map fun m => quoted m.1 ++ ": " ++ m.2) ++ "\x7d"

/-- An optional value on one line. -/
def optionLine : Option String → String
  | some s => "Some(" ++ s ++ ")"
  | none => "None"

end ActionTree.Text
