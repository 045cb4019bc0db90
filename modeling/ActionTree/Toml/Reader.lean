import ActionTree.Toml.Scalar
import ActionTree.Toml.Table

/-!
# Reading TOML

A TOML text is a sequence of lines: a key with a value, a header, or nothing, each with an optional
comment. `Document.ofToml?` reads a whole text.

In the program: its TOML reader.

* `readKey`: the parts of a dotted key.
* `readValue`: a value; arrays may span lines, inline tables may not.
* `readLine`: one line, added to the draft of the text.
-/

namespace ActionTree

namespace Toml

/-- Characters of keys without quotes. -/
def isBare (c : Char) : Bool := c.isAlphanum || c = '_' || c = '-'

/-- Keys have fewer parts than this, and values are nested less deep. -/
def limit : Nat := 80

/-- One part of a key. -/
def readPart : Read String
  | [] => none
  | c :: rest =>
    if c = '"' ∨ c = '\x27' then
      (readLineString (c :: rest)).map fun (cs, out) => (String.ofList cs, out)
    else
      let cs := (c :: rest).takeWhile isBare
      if cs.isEmpty then none else some (String.ofList cs, (c :: rest).dropWhile isBare)

/-- The parts of a dotted key, with blanks around them. -/
def readParts : Nat → Read (List String)
  | 0, _ => none
  | fuel + 1, cs => do
    let (part, rest) ← readPart (skipBlanks cs)
    match skipBlanks rest with
    | '.' :: more => do
      let (parts, out) ← readParts fuel more
      return (part :: parts, out)
    | out => return ([part], out)

/-- A dotted key: the parts before the last one, and the last one. -/
def readKey : Read (List String × String) := fun cs => do
  let (parts, rest) ← readParts limit cs
  let last ← parts.getLast?
  if parts.length < limit then return ((parts.dropLast, last), rest) else none

/-- The rest of a text behind a comment, if there is one. -/
def skipComment : List Char → List Char
  | '#' :: rest => rest.dropWhile isPlain
  | cs => cs

/-- The rest of a text behind blanks, comments and line ends, of which there are at most so many. -/
def skipSpace : Nat → List Char → List Char
  | 0, cs => cs
  | fuel + 1, cs =>
    let rest := skipComment (skipBlanks cs)
    match lineEnd? rest with
    | some more => skipSpace fuel more
    | none => rest

/-- The rest of an array behind blanks, comments and line ends. -/
def skipAll (cs : List Char) : List Char := skipSpace (cs.length + 1) cs

mutual

/-- A value that nests at most so many levels deep. -/
def readValue : Nat → Nat → Read Document
  | 0, _, _ => none
  | fuel + 1, levels, cs =>
    match cs with
    | '[' :: rest =>
      if levels = 0 then none
      else (readItems fuel (levels - 1) rest).map fun (ds, out) => (.seq ds, out)
    | '\x7b' :: rest =>
      if levels = 0 then none
      else match skipBlanks rest with
        | '\x7d' :: out => some (.table [], out)
        | _ =>
          (readPairs fuel (levels - 1) .explicit rest).map fun (t, out) => (t.document, out)
    | 't' :: 'r' :: 'u' :: 'e' :: rest => some (.value (.bool true), rest)
    | 'f' :: 'a' :: 'l' :: 's' :: 'e' :: rest => some (.value (.bool false), rest)
    | '"' :: _ => text cs
    | '\x27' :: _ => text cs
    | _ =>
      match readDate cs with
      | some found => some found
      | none => readNumber cs
where
  /-- A string value. -/
  text (cs : List Char) : Option (Document × List Char) :=
    (readString cs).map fun (s, out) => (.value (.str (String.ofList s)), out)

/-- The items of an array up to its closing bracket. A comma may follow the last one. -/
def readItems : Nat → Nat → Read (List Document)
  | 0, _, _ => none
  | fuel + 1, levels, cs =>
    match skipAll cs with
    | ']' :: out => some ([], out)
    | rest => do
      let (d, rest) ← readValue fuel levels rest
      match skipAll rest with
      | ',' :: more => do
        let (ds, out) ← readItems fuel levels more
        return (d :: ds, out)
      | ']' :: out => return ([d], out)
      | _ => none

/-- The keys and values of an inline table up to its closing brace, added to those before. -/
def readPairs : Nat → Nat → Table → Read Table
  | 0, _, _, _ => none
  | fuel + 1, levels, t, cs => do
    let ((path, key), rest) ← readKey cs
    let rest ← mark? '=' rest
    let (d, rest) ← readValue fuel levels (skipBlanks rest)
    let t ← t.assign? path key d
    match skipBlanks rest with
    | ',' :: more => readPairs fuel levels t more
    | '\x7d' :: out => return (t, out)
    | _ => none

end

/-- The rest of a text behind the end of a line, which may have a comment. -/
def endLine? (cs : List Char) : Option (List Char) :=
  match skipComment (skipBlanks cs) with
  | [] => some []
  | rest => lineEnd? rest

/-- A key and its value. -/
def readPair (d : Draft) : Read Draft := fun cs => do
  let ((path, key), rest) ← readKey cs
  let rest ← mark? '=' rest
  let (v, rest) ← readValue (rest.length + 1) (limit - 1) (skipBlanks rest)
  return (← d.assign? path key v, rest)

/-- A header of a table, or of one of several tables. -/
def readHeader (d : Draft) : Read Draft
  | '[' :: '[' :: rest => do
    let ((path, key), rest) ← readKey rest
    let rest ← mark? ']' rest
    let rest ← mark? ']' rest
    return (← d.header? true path key, rest)
  | '[' :: rest => do
    let ((path, key), rest) ← readKey rest
    let rest ← mark? ']' rest
    return (← d.header? false path key, rest)
  | _ => none

/-- One line, added to a draft, and the text behind its end. -/
def readLine (d : Draft) (cs : List Char) : Option (Draft × List Char) := do
  let cs := skipBlanks cs
  match cs with
  | [] => return (d, [])
  | c :: _ =>
    let (d, rest) ←
      if c = '#' ∨ c = '\n' ∨ c = '\r' then some (d, cs)
      else if c = '[' then readHeader d cs
      else readPair d cs
    return (d, ← endLine? rest)

/-- All lines of a text, added to a draft. -/
def readLinesOf : Nat → Draft → List Char → Option Draft
  | 0, _, _ => none
  | _ + 1, d, [] => some d
  | fuel + 1, d, cs => do
    let (d, rest) ← readLine d cs
    readLinesOf fuel d rest

/-- The text without a byte order mark at its start. -/
def stripMark : List Char → List Char
  | '\ufeff' :: rest => rest
  | cs => cs

end Toml

/-- The document of a TOML text. -/
def Document.ofToml? (cs : List Char) : Option Document := do
  let cs := Toml.stripMark cs
  let d ← Toml.readLinesOf (cs.length + 1) .empty cs
  return (← d.finish?).document

end ActionTree
