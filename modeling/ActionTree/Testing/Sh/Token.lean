import ActionTree.Testing.Sh.Syntax
import ActionTree.Text.Decimal

/-!
# Tokens of the shell

A token is an operator, a redirection, a word, the end of a line or the end of the text. Commands
inside of words are read by a function that the reader of tokens is given.

* `pieces`: the parts of a word up to where a quotation, a parameter or the word itself ends.
* `cutLines`: lines that are the input of a command, cut out of the text.
* `token`: the next token.
-/

namespace ActionTree.Sh

/-- A token. -/
inductive Token where
  | eof
  | newline
  | operator (text : String)
  | redirect (descriptor : Nat) (direction : Direction)
  | word (w : Word)

/-- How a token is called in a message; keywords are told apart where they count. -/
def Token.text (keywordsCount : Bool) : Token → String
  | .eof => "end of file"
  | .newline => "newline"
  | .operator t => "\"" ++ t ++ "\""
  | .redirect .. => "redirection"
  | .word w =>
    match if keywordsCount then keyword? w else none with
    | some k => "\"" ++ k ++ "\""
    | none => "word"

/-- A reader: what was read and the text behind it. -/
abbrev Reader (α : Type) := Bytes → Except SyntaxError (α × Bytes)

/-- Reads commands inside of a word, up to a closing parenthesis or to the end of the text. -/
abbrev Nested := (closing : Bool) → Reader Command

/-- What a part of a text ends with, and so which characters are special in it. -/
inductive Context where
  /-- A word without quotes. -/
  | bare
  /-- Text between double quotes. -/
  | double
  /-- The word inside of a parameter's braces. -/
  | brace (quoted : Bool)
  /-- Lines that are the input of a command. -/
  | here
  /-- An expression inside of so many more parentheses. -/
  | arith (depth : Nat)
  deriving DecidableEq

namespace Context

/-- Is a character of this context quoted? -/
def quotes : Context → Bool
  | bare => false
  | double => true
  | brace quoted => quoted
  | here => true
  | arith _ => true

/-- Which characters a backslash quotes where it does not quote everything. -/
def escapable : Context → List Char
  | brace _ => ['$', '\x60', '"', '\\', '\x7d']
  | here => ['$', '\x60', '\\']
  | _ => ['$', '\x60', '"', '\\']

/-- What is missing if the text ends here. -/
def missing? : Context → Option Fault
  | bare | here => none
  | double => some .unterminatedQuote
  | brace _ => some .missingBrace
  | arith _ => some .missingParens

end Context

/-- The characters that end a word. -/
def isMeta (c : Char) : Bool := [' ', '\t', '\n', ';', '&', '|', '<', '>', '(', ')'].contains c

/-- Text between single quotes. -/
def singleQuoted : Reader Word := fun cs =>
  match cs.dropWhile (· ≠ '\x27') with
  | [] => .error ⟨.unterminatedQuote, []⟩
  | _ :: rest => .ok (.quotes :: (cs.takeWhile (· ≠ '\x27')).map (.char true), rest)

/-- Text between backquotes, without the backslashes that the quotes need. -/
def backquoted (inQuotes : Bool) : Bytes → Except SyntaxError (Bytes × Bytes)
  | [] => .error ⟨.unterminatedBackquote, []⟩
  | '\x60' :: rest => .ok ([], rest)
  | '\\' :: c :: rest => do
    let (text, out) ← backquoted inQuotes rest
    let special := c = '\\' || c = '\x60' || c = '$' || (inQuotes && c = '"')
    return (if special then c :: text else '\\' :: c :: text, out)
  | c :: rest => do
    let (text, out) ← backquoted inQuotes rest
    return (c :: text, out)

/-- The parameters whose names are single characters. -/
def isSpecialParam (c : Char) : Bool := c.isDigit || ['@', '*', '#', '?', '$', '!', '-'].contains c

/-- The name of a parameter at the start of a text. -/
def paramName? (cs : Bytes) : Option (Bytes × Bytes) :=
  match cs with
  | [] => none
  | c :: rest =>
    if isNameStart c then some (cs.span isNameChar)
    else if isSpecialParam c then some ([c], rest)
    else none

/-- The name of a parameter inside of braces, where it may be a number of several digits. -/
def bracedName? (cs : Bytes) : Option (Bytes × Bytes) :=
  if cs.head?.any Char.isDigit then some (cs.span Char.isDigit) else paramName? cs

/-- What follows a name inside of braces: the use of a word, or none. -/
def paramWord? : Bytes → Option ((Word → ParamUse) × Bytes)
  | ':' :: '-' :: rest => some (.orElse true, rest)
  | ':' :: '=' :: rest => some (.orAssign true, rest)
  | ':' :: '+' :: rest => some (.ifSet true, rest)
  | ':' :: '?' :: rest => some (.orFail true, rest)
  | '-' :: rest => some (.orElse false, rest)
  | '=' :: rest => some (.orAssign false, rest)
  | '+' :: rest => some (.ifSet false, rest)
  | '?' :: rest => some (.orFail false, rest)
  | '#' :: '#' :: rest => some (.trim true true, rest)
  | '#' :: rest => some (.trim true false, rest)
  | '%' :: '%' :: rest => some (.trim false true, rest)
  | '%' :: rest => some (.trim false false, rest)
  | _ => none

/-- Do these characters introduce a pattern, in which quotes of their own count? -/
def introducesPattern : Bytes → Bool
  | '#' :: _ | '%' :: _ => true
  | _ => false

/-- One more part in front of those that a reader finds. -/
def consPiece (p : Piece) : Except SyntaxError (Word × Bytes) → Except SyntaxError (Word × Bytes) :=
  Except.map fun (w, rest) => (p :: w, rest)

mutual

/-- The parts of a text up to the end of its context. -/
def pieces (nested : Nested) : Nat → Context → Reader Word
  | 0, _, cs => .error ⟨.unterminatedQuote, cs⟩
  | n + 1, context, cs =>
    let literal (c : Char) (rest : Bytes) :=
      consPiece (.char context.quotes c) (pieces nested n context rest)
    match cs with
    | [] => match context.missing? with
      | some fault => .error ⟨fault, []⟩
      | none => .ok ([], [])
    | '\\' :: '\n' :: rest => pieces nested n context rest
    | ['\\'] => consPiece (.char true '\\') (pieces nested n context [])
    | '\\' :: c :: rest =>
      if !context.quotes || context.escapable.contains c then
        consPiece (.char true c) (pieces nested n context rest)
      else literal '\\' (c :: rest)
    | '$' :: rest => do
      let (p, rest) ← dollar nested n context.quotes rest
      consPiece p (pieces nested n context rest)
    | '\x60' :: rest => do
      let (text, rest) ← backquoted context.quotes rest
      let (c, _) ← nested false text
      consPiece (.output context.quotes c) (pieces nested n context rest)
    | '"' :: rest =>
      match context with
      | .double => .ok ([], rest)
      | .arith _ => pieces nested n context rest
      | .here => literal '"' rest
      | _ => do
        let (w, rest) ← pieces nested n .double rest
        (pieces nested n context rest).map fun (v, out) => (.quotes :: (w ++ v), out)
    | '\x27' :: rest =>
      if context.quotes then literal '\x27' rest
      else do
        let (w, rest) ← singleQuoted rest
        (pieces nested n context rest).map fun (v, out) => (w ++ v, out)
    | c :: rest =>
      match context, c with
      | .brace _, '\x7d' => .ok ([], rest)
      | .arith depth, '(' => consPiece (.char true c) (pieces nested n (.arith (depth + 1)) rest)
      | .arith 0, ')' => match rest with
        | ')' :: rest => .ok ([], rest)
        | _ => .error ⟨.missingParens, rest⟩
      | .arith (depth + 1), ')' => consPiece (.char true c) (pieces nested n (.arith depth) rest)
      | .bare, _ => if isMeta c then .ok ([], c :: rest) else literal c rest
      | _, _ => literal c rest

/-- What a dollar sign begins. -/
def dollar (nested : Nested) : Nat → Bool → Reader Piece
  | 0, _, cs => .error ⟨.unterminatedQuote, cs⟩
  | n + 1, quoted, cs =>
    match cs with
    | '(' :: '(' :: rest => do
      let (w, rest) ← pieces nested n (.arith 0) rest
      return (.arith quoted w, rest)
    | '(' :: rest => do
      let (c, rest) ← nested true rest
      return (.output quoted c, rest)
    | '\x7b' :: rest => braced nested n quoted rest
    | _ => match paramName? cs with
      | some (name, rest) => .ok (.param quoted name .value, rest)
      | none => .ok (.char quoted '$', cs)

/-- A parameter between braces, of which the opening one has been read. -/
def braced (nested : Nested) : Nat → Bool → Reader Piece
  | 0, _, cs => .error ⟨.missingBrace, cs⟩
  | n + 1, quoted, cs =>
    let plain (cs : Bytes) : Except SyntaxError (Piece × Bytes) :=
      match bracedName? cs with
      | some (name, '\x7d' :: rest) => .ok (.param quoted name .value, rest)
      | some (name, rest) =>
        match paramWord? rest with
        | some (use, out) => do
          let (w, rest) ← pieces nested n (.brace (quoted && !introducesPattern rest)) out
          return (.param quoted name (use w), rest)
        | none => do
          let (_, rest) ← pieces nested n (.brace quoted) rest
          return (.param quoted name .bad, rest)
      | none => do
        let (_, rest) ← pieces nested n (.brace quoted) cs
        return (.param quoted [] .bad, rest)
    match cs with
    | '#' :: rest => match bracedName? rest with
      | some (name, '\x7d' :: rest) => .ok (.param quoted name .length, rest)
      | _ => plain cs
    | _ => plain cs

end

/-- The text behind blanks, comments and line breaks that do not count. -/
def skipBlanks : Bytes → Bytes
  | ' ' :: rest => skipBlanks rest
  | '\t' :: rest => skipBlanks rest
  | '\\' :: '\n' :: rest => skipBlanks rest
  | '#' :: rest => rest.dropWhile (· ≠ '\n')
  | cs => cs

/-- The operator at the start of a text. -/
def operator? : Bytes → Option (String × Bytes)
  | '&' :: '&' :: rest => some ("&&", rest)
  | '|' :: '|' :: rest => some ("||", rest)
  | ';' :: ';' :: rest => some (";;", rest)
  | '&' :: rest => some ("&", rest)
  | '|' :: rest => some ("|", rest)
  | ';' :: rest => some (";", rest)
  | '(' :: rest => some ("(", rest)
  | ')' :: rest => some (")", rest)
  | _ => none

/-- The redirection at the start of a text, with the descriptor that is given or else the usual one.
-/
def redirect? (descriptor : Option Nat) : Bytes → Option (Token × Bytes)
  | '>' :: '>' :: rest => some (.redirect (descriptor.getD 1) (.toFile true false), rest)
  | '>' :: '&' :: rest => some (.redirect (descriptor.getD 1) .copy, rest)
  | '>' :: '|' :: rest => some (.redirect (descriptor.getD 1) (.toFile false true), rest)
  | '>' :: rest => some (.redirect (descriptor.getD 1) (.toFile false false), rest)
  | '<' :: '>' :: rest => some (.redirect (descriptor.getD 0) .both, rest)
  | '<' :: '&' :: rest => some (.redirect (descriptor.getD 0) .copy, rest)
  | '<' :: '<' :: '-' :: rest => some (.redirect (descriptor.getD 0) (.here true), rest)
  | '<' :: '<' :: rest => some (.redirect (descriptor.getD 0) (.here false), rest)
  | '<' :: rest => some (.redirect (descriptor.getD 0) .fromFile, rest)
  | _ => none

/-- Lines up to one that is a given text, and the text behind that line. -/
def linesUpTo (strip : Bool) (final : Bytes) : Nat → Bytes → Bytes × Bytes
  | 0, cs => ([], cs)
  | n + 1, cs =>
    if cs.isEmpty then ([], [])
    else
      let whole := cs.takeWhile (· ≠ '\n')
      let rest := cs.drop whole.length
      let own := if strip then whole.dropWhile (· = '\t') else whole
      if own = final then ([], rest.drop 1)
      else
        let (more, out) := linesUpTo strip final n (rest.drop 1)
        (own ++ rest.take 1 ++ more, out)

/-- The text of a word of which nothing is replaced. -/
def rawText (w : Word) : Bytes :=
  w.filterMap fun
    | .char _ c => some c
    | _ => none

/-- Is any part of a word quoted? -/
def hasQuotes (w : Word) : Bool :=
  w.any fun
    | .char quoted _ => quoted
    | .quotes => true
    | _ => false

/-- The next token. A single digit right before a redirection is its descriptor. -/
def token (nested : Nested) : Reader Token := fun cs =>
  let cs := skipBlanks cs
  match cs with
  | [] => .ok (.eof, [])
  | '\n' :: rest => .ok (.newline, rest)
  | c :: rest =>
    let descriptor : Option (Token × Bytes) :=
      if c.isDigit then redirect? (some (Text.number [c])) rest else none
    match operator? cs, redirect? none cs, descriptor with
    | some (t, out), _, _ => .ok (.operator t, out)
    | _, some r, _ => .ok r
    | _, _, some r => .ok r
    | _, _, _ => (pieces nested (2 * cs.length + 2) .bare cs).map fun (w, out) => (.word w, out)

/-- The length of what is left of the current line: up to a line break that is no part of a word. -/
def lineLength (nested : Nested) (cs : Bytes) : Nat :=
  go cs.length cs
where
  /-- The length, for a text that is at most so long. -/
  go : Nat → Bytes → Nat
    | 0, rest => cs.length - rest.length
    | n + 1, rest =>
      match token nested rest with
      | .ok (.newline, out) => cs.length - out.length - 1
      | .ok (.eof, _) => cs.length
      | .ok (_, out) => go n out
      | .error _ => (cs.takeWhile (· ≠ '\n')).length

/-- The lines behind the current one, up to one that is a given text, cut out of a text. -/
def cutLines (nested : Nested) (strip : Bool) (final cs : Bytes) : Bytes × Bytes :=
  let current := cs.take (lineLength nested cs)
  let following := cs.drop (current.length + 1)
  let (lines, out) := linesUpTo strip final (following.length + 1) following
  (lines, current ++ (if current.length < cs.length then '\n' :: out else []))

end ActionTree.Sh
