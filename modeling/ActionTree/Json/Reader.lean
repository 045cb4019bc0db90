import ActionTree.Json.Literal

/-!
# Reading JSON

`Document.ofJsonText?` reads a text that is one JSON value with blanks around it: space, tab, line
feed and carriage return. `Json.parse?` gives the value itself. Arrays and objects nest at most 127
deep; what lies deeper is well formed but `invalid`.

In the program: its JSON reader, which payloads of steps, bodies of responses and serialized
sessions go through.
-/

namespace ActionTree

namespace Json

/-- The blanks of JSON. -/
def isSpace (c : Char) : Bool := c = ' ' || c = '\t' || c = '\n' || c = '\r'

/-- The text without the blanks at its start. -/
def skipSpace (cs : List Char) : List Char := cs.dropWhile isSpace

/-- The deepest level at which an array or object has a value. -/
def greatestDepth : Nat := 127

/-- An array or object, if it is not nested too deep. -/
def nested (depth : Nat) (d : Document) : Document := if depth < greatestDepth then d else .invalid

/-- The rest of a text behind a word that it starts with. -/
def stripWord : List Char → List Char → Option (List Char)
  | [], cs => some cs
  | w :: ws, c :: cs => if w = c then stripWord ws cs else none
  | _ :: _, [] => none

/-- The members of an object as a document. An object with a name that has no value has none. -/
def tableOf (depth : Nat) (members : List (Option String × Document)) : Document :=
  match members.mapM fun m => m.1.map fun k => (k, m.2) with
  | some ms => nested depth (.table ms)
  | none => .invalid

mutual

/-- A value at a depth, and the text behind it. -/
def readValue : Nat → Nat → List Char → Option (Document × List Char)
  | 0, _, _ => none
  | fuel + 1, depth, cs =>
    match skipSpace cs with
    | '[' :: rest =>
      match skipSpace rest with
      | ']' :: out => some (nested depth (.seq []), out)
      | _ => (readItems fuel (depth + 1) rest).map fun (items, out) =>
          (nested depth (.seq items), out)
    | '\x7b' :: rest =>
      match skipSpace rest with
      | '\x7d' :: out => some (nested depth (.table []), out)
      | _ => (readMembers fuel (depth + 1) rest).map fun (members, out) =>
          (tableOf depth members, out)
    | '"' :: rest =>
      (readString rest).map fun (s?, out) => (s?.elim .invalid (.value <| .str ·), out)
    | 't' :: rest => (stripWord ['r', 'u', 'e'] rest).map (.value (.bool true), ·)
    | 'f' :: rest => (stripWord ['a', 'l', 's', 'e'] rest).map (.value (.bool false), ·)
    | 'n' :: rest => (stripWord ['u', 'l', 'l'] rest).map (.value .null, ·)
    | rest => (readNumeral rest).map fun (l, out) => (l.document, out)

/-- The items of an array from one on, up to its closing bracket, and the text behind it. -/
def readItems : Nat → Nat → List Char → Option (List Document × List Char)
  | 0, _, _ => none
  | fuel + 1, depth, cs => do
    let (d, rest) ← readValue fuel depth cs
    match skipSpace rest with
    | ',' :: more => do
      let (ds, out) ← readItems fuel depth more
      return (d :: ds, out)
    | ']' :: out => return ([d], out)
    | _ => none

/-- The members of an object from one on, up to its closing brace, and the text behind it. -/
def readMembers : Nat → Nat → List Char → Option (List (Option String × Document) × List Char)
  | 0, _, _ => none
  | fuel + 1, depth, cs =>
    match skipSpace cs with
    | '"' :: rest => do
      let (key?, rest) ← readString rest
      match skipSpace rest with
      | ':' :: rest => do
        let (d, rest) ← readValue fuel depth rest
        match skipSpace rest with
        | ',' :: more => do
          let (ms, out) ← readMembers fuel depth more
          return ((key?, d) :: ms, out)
        | '\x7d' :: out => return ([(key?, d)], out)
        | _ => none
      | _ => none
    | _ => none

end

end Json

/-- The document of a JSON text. Nothing but blanks may follow the value. -/
def Document.ofJsonText? (cs : List Char) : Option Document := do
  let (d, rest) ← Json.readValue (cs.length + 1) 0 cs
  if (Json.skipSpace rest).isEmpty then some d else none

/-- The value of a JSON text. -/
def Json.parse? (cs : List Char) : Option Json := (Document.ofJsonText? cs).bind (·.json?)

end ActionTree
