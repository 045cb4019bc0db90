import ActionTree.Testing.Sh.Scan.Basic
import ActionTree.Testing.Sh.Scan.Pattern

/-!
# Tokens of scanning programs

A program is a text of tokens. What a token is may depend on those before it: a slash divides behind
a value and starts an expression elsewhere, and behind `print` a sign that is not between
parentheses says where the output goes.

* `Lexing.token`: the token at the start of a text.
* `Lexing.readAll`: the tokens of a text.
* `Flaw`: why a text is no program.
-/

namespace ActionTree.Sh.Scan

/-- A token of a scanning program. -/
inductive Token where
  /-- A number, and how it is written. -/
  | number (x : Binary64) (cs : Bytes)
  | text (cs : Bytes)
  | pattern (cs : Bytes)
  | name (cs : Bytes)
  /-- The name of a function of the program. -/
  | function (cs : Bytes)
  | tool (t : Tool) (name : String)
  /-- A sign or a word with a meaning. -/
  | sign (s : String)
  /-- A sign that says where the output goes. -/
  | output (o : Opening) (s : String)
  /-- The end of a line. -/
  | feed
  /-- The end of a statement in front of a brace. -/
  | implied
  | unexpected (c : Char)
  | finish
  deriving DecidableEq

/-- A token with its line, and how many parentheses and braces are open behind it. -/
structure Lexeme where
  token : Token
  line : Nat
  parens : Nat
  braces : Nat

instance : Inhabited Lexeme := ⟨⟨.finish, 1, 0, 0⟩⟩

/-- Why a text is no program. -/
inductive Flaw where
  | near (shown : Bytes)
  | missing (c : Char) (shown : Bytes)
  | extra (s : String)
  | endless (what : String) (mark : Char) (cs : Bytes)
  | overflow (cs : Bytes)
  | unexpected (c : Char)
  | expression (f : ScanFault) (cs : Bytes)
  /-- A name is used for what it does not stand for. -/
  | illegal (what : String) (name : Bytes)
  | mismatch (position : Nat) (function : Bytes) (givenTable : Bool)
  | tooMany (function : Bytes)
  | twice (name : Bytes)
  | redefined (name : Bytes)
  | undefined (name : Bytes)
  | improper (word : String)
  | noLoop (word : String)
  | noFunction
  | noArguments
  | wrongCount (name : String)

/-- What is said of a flaw. -/
def Flaw.message : Flaw → Bytes
  | .near shown => "syntax error at or near ".toList ++ shown
  | .missing c shown => "missing ".toList ++ c :: " near ".toList ++ shown
  | .extra s => ("extra '" ++ s ++ "'").toList
  | .endless what mark cs =>
    ("runaway " ++ what).toList ++ ' ' :: mark :: (cs.takeWhile (· ≠ '\n')).take 10 ++ " ...".toList
  | .overflow cs => cs ++ " : decimal overflow".toList
  | .unexpected c => "unexpected character '".toList ++ c :: ['\x27']
  | .expression f cs => f.message cs
  | .illegal what name => ("illegal reference to " ++ what ++ " ").toList ++ name
  | .mismatch position function givenTable =>
    let kind (table : Bool) : String := if table then "local array" else "local variable"
    "type error in arg(".toList ++ decimal position ++ ") in call to ".toList ++ function
      ++ (" (actual " ++ kind givenTable ++ " vs " ++ kind (!givenTable) ++ ")").toList
  | .tooMany function => "too many arguments in call to ".toList ++ function
  | .twice name => name ++ " is duplicated in argument list".toList
  | .redefined name => "redefinition of ".toList ++ name
  | .undefined name => "function ".toList ++ name ++ " never defined".toList
  | .improper word => ("improper use of " ++ word).toList
  | .noLoop word => (word ++ " statement outside of loop").toList
  | .noFunction => "return outside function body".toList
  | .noArguments => "no arguments in call to printf".toList
  | .wrongCount name => ("wrong number of arguments in call to " ++ name).toList

/-- A flaw with its line and the number of the token at which it shows. -/
structure Fault where
  place : Nat
  line : Nat
  flaw : Flaw

/-- What is known in the middle of a text. -/
structure Lexing where
  rest : Bytes
  line : Nat
  parens : Nat
  braces : Nat
  last : Token
  /-- Does a sign say where the output goes? -/
  printing : Bool
  functions : List Bytes
  known : List Bytes
  /-- How many tokens there were. -/
  place : Nat
  /-- What is wrong, the latest first. -/
  faults : List Fault

namespace Token

/-- The words with a meaning. -/
def words : List String :=
  ["BEGIN", "END", "break", "continue", "delete", "do", "else", "exit", "for", "function",
    "getline", "gsub", "if", "in", "next", "nextfile", "print", "printf", "return",
    "split", "sub", "while"]

/-- The names of the functions that every program has. -/
def tools : List (String × Tool) :=
  [("atan2", .angle), ("close", .close), ("cos", .cosine), ("exp", .exponential),
    ("fflush", .flush), ("index", .position), ("int", .whole), ("length", .length),
    ("log", .logarithm), ("match", .search), ("mktime", .instant), ("rand", .random),
    ("sin", .sine), ("sprintf", .layout), ("sqrt", .root), ("srand", .seed),
    ("strftime", .moment), ("substr", .part), ("system", .system), ("systime", .clock),
    ("tolower", .lower), ("toupper", .upper)]

/-- The signs, longer ones first. -/
def signs : List String :=
  ["&&", "||", "++", "--", "+=", "-=", "*=", "/=", "%=", "^=", "==", "!=", "<=", ">=", "!~",
    "+", "-", "*", "/", "%", "^", "=", "!", "<", ">", "~", "|", "?", ":", ",", ";", "$", "(", ")",
    "[", "]", "\x7b", "\x7d"]

/-- The token as it is shown. -/
def shown : Token → Bytes
  | .number _ cs | .text cs | .name cs | .function cs => cs
  | .pattern cs => '/' :: cs ++ ['/']
  | .tool _ s | .sign s | .output _ s => s.toList
  | .feed => "end of line".toList
  | .implied => ['\x7d']
  | .unexpected c => [c]
  | .finish => "end of file".toList

/-- May a slash behind the token divide? -/
def endsValue : Token → Bool
  | .number .. | .text _ | .pattern _ | .name _ | .function _ | .tool .. => true
  | .sign s => s = ")" || s = "]" || s = "getline"
  | _ => false

end Token

namespace Lexing

/-- White space within a line. -/
def isSpace (c : Char) : Bool := c = ' ' || c = '\t' || c = '\x0b' || c = '\x0c' || c = '\r'

/-- The text behind white space, ends of lines and remarks, and how many lines end there. -/
def skipLines : Nat → Nat → Bytes → Bytes × Nat
  | 0, n, cs => (cs, n)
  | fuel + 1, n, cs =>
    match cs with
    | [] => ([], n)
    | '\n' :: rest => skipLines fuel (n + 1) rest
    | '#' :: rest => skipLines fuel n (rest.dropWhile (· ≠ '\n'))
    | '\\' :: more =>
      match more.dropWhile isSpace with
      | '\n' :: rest => skipLines fuel (n + 1) rest
      | _ => (cs, n)
    | c :: rest => if isSpace c then skipLines fuel n rest else (cs, n)

/-- Goes on behind the ends of lines that follow. -/
def pastLines (l : Lexing) : Lexing :=
  let (rest, n) := skipLines (l.rest.length + 1) 0 l.rest
  { l with rest := rest, line := l.line + n }

/-- Goes on behind a semicolon, if one follows on the line. -/
def pastSemicolon (l : Lexing) : Lexing :=
  match l.rest.dropWhile isSpace with
  | ';' :: rest => { l with rest := rest }
  | rest => { l with rest := rest }

/-- The text behind blanks, remarks and lines that are continued. -/
def pastBlanks : Nat → Lexing → Lexing
  | 0, l => l
  | fuel + 1, l =>
    match l.rest with
    | '#' :: rest => { l with rest := rest.dropWhile (· ≠ '\n') }
    | '\\' :: more =>
      match more.dropWhile isSpace with
      | '\n' :: rest => pastBlanks fuel { l with rest := rest, line := l.line + 1 }
      | _ => l
    | c :: rest => if isSpace c then pastBlanks fuel { l with rest := rest } else l
    | [] => l

/-- The decimal number at the start of a text, which has one, and the text behind it. -/
def number (cs : Bytes) : Binary64 × Bytes :=
  match Point.digits? 10 cs with
  | some (n, places, rest) =>
    let (e, out) := Point.exponent 'e' rest
    (.nearestTen false n (max (e - places) (-(cs.length + 400 : Int))), out)
  | none => (.zero false, cs.drop 1)

/-- The text between quotes, in reverse behind a text, and what follows; there is none if the line
ends before. -/
def quoted : Bytes → Bytes → Option (Bytes × Bytes × Nat)
  | _, [] => none
  | done, '"' :: rest => some (done.reverse, rest, 0)
  | _, '\n' :: _ => none
  | done, '\\' :: '\n' :: rest => (quoted done rest).map fun (t, out, n) => (t, out, n + 1)
  | done, '\\' :: c :: rest => quoted (c :: '\\' :: done) rest
  | done, c :: rest => quoted (c :: done) rest

/-- The expression up to a slash, in reverse behind a text, and what follows. A slash between
brackets does not end it. -/
def slashed : Bool → Bytes → Bytes → Option (Bytes × Bytes)
  | _, _, [] => none
  | _, _, '\n' :: _ => none
  | false, done, '/' :: rest => some (done.reverse, rest)
  | inside, done, '\\' :: '/' :: rest => slashed inside ('/' :: done) rest
  | inside, done, '\\' :: '\n' :: rest => slashed inside done rest
  | inside, done, '\\' :: c :: rest => slashed inside (c :: '\\' :: done) rest
  | false, done, '[' :: '^' :: ']' :: rest => slashed true (']' :: '^' :: '[' :: done) rest
  | false, done, '[' :: ']' :: rest => slashed true (']' :: '[' :: done) rest
  | false, done, '[' :: rest => slashed true ('[' :: done) rest
  | true, done, ']' :: rest => slashed false (']' :: done) rest
  | inside, done, c :: rest => slashed inside (c :: done) rest

/-- At most so many hexadecimal digits, as a number. -/
def hexadecimal : Nat → Nat → Bytes → Nat × Bytes
  | n + 1, acc, c :: cs =>
    match Arith.digit? 16 c with
    | some d => hexadecimal n (acc * 16 + d) cs
    | none => (acc, c :: cs)
  | _, acc, cs => (acc, cs)

/-- A text that is at most so long with its escapes carried out. -/
def unescaped : Nat → Bytes → Bytes
  | 0, cs => cs
  | n + 1, cs =>
    match cs with
    | '\\' :: c :: rest =>
      match if c = 'e' then none else controlEscape? c with
      | some d => d :: unescaped n rest
      | none =>
        let (hex, out) := hexadecimal 2 0 rest
        if c = '"' then c :: unescaped n rest
        else if c = 'x' && out.length < rest.length then byteChar hex :: unescaped n out
        else if isOctal c then
          let (code, out) := octal 3 0 (c :: rest)
          byteChar code :: unescaped n out
        else '\\' :: c :: unescaped n rest
    | c :: rest => c :: unescaped n rest
    | [] => []

/-- A text with its escapes. -/
def unescape (cs : Bytes) : Bytes := unescaped (cs.length + 1) cs

/-- Is the text a name? -/
def isName (cs : Bytes) : Bool :=
  cs.head?.any (fun c => c.isAlpha || c = '_') && cs.all isNameChar

/-- What a name in the text is. -/
def named (l : Lexing) (cs : Bytes) : Token × Lexing :=
  let s := String.ofList cs
  if Token.words.contains s then
    (.sign s, if s = "print" || s = "printf" then { l with printing := true } else l)
  else match Token.tools.find? (·.1 = s) with
    | some (_, t) => (.tool t s, l)
    | none =>
      let defined := l.last = .sign "function"
      let isNew := !l.known.contains cs
      if l.functions.contains cs then (.function cs, l)
      else if (isNew && l.rest.head? = some '(') || defined then
        (.function cs, { l with functions := cs :: l.functions })
      else (.name cs, { l with known := if isNew then cs :: l.known else l.known })

/-- A flaw at the present place. -/
def fault (l : Lexing) (f : Flaw) : Fault := ⟨l.place, l.line, f⟩

/-- A sign of the text and how it changes what is known; no token comes of one that is too many. -/
def signed (l : Lexing) (s : String) : Option Token × Lexing :=
  let extra (l : Lexing) : Lexing := { l with faults := l.fault (.extra s) :: l.faults }
  match s with
  | "(" => (some (.sign s), { l with parens := l.parens + 1 })
  | ")" =>
    if l.parens = 0 then (none, extra l) else (some (.sign s), { l with parens := l.parens - 1 })
  | "\x7b" => (some (.sign s), { l.pastLines with braces := l.braces + 1 })
  | "\x7d" =>
    if l.braces = 0 then (none, (extra l).pastSemicolon)
    else if l.last = .feed || l.last = .sign ";" || l.last = .implied || l.last = .sign "\x7d" then
      let l := { l with braces := l.braces - 1 }
      (some (.sign s), (if l.braces = 0 then l.pastSemicolon else l).pastLines)
    else (some .implied, { l with rest := '\x7d' :: l.rest, printing := false })
  | ";" => (some (.sign s), { l.pastLines with printing := false })
  | "," | "&&" | "||" => (some (.sign s), l.pastLines)
  | ">" =>
    if l.printing && l.parens = 0 then
      match l.rest with
      | '>' :: rest => (some (.output .finish s), { l with rest := rest, printing := false })
      | _ => (some (.output .start s), { l with printing := false })
    else (some (.sign s), l)
  | "|" =>
    if l.printing && l.parens = 0 then (some (.output .command s), { l with printing := false })
    else (some (.sign s), l)
  | _ => (some (.sign s), l)

/-- The next token of a text, and what is then known. There is none for a sign that is too many. An
error ends everything. -/
def token (l : Lexing) : Except Fault (Option Token × Lexing) :=
  let l := pastBlanks (l.rest.length + 1) l
  match l.rest with
  | [] => .ok (some .finish, l)
  | '\n' :: rest =>
    .ok (some .feed, pastLines { l with rest := rest, line := l.line + 1, printing := false })
  | '"' :: rest =>
    match quoted [] rest with
    | some (cs, rest, n) =>
      .ok (some (.text (unescape cs)), { l with rest := rest, line := l.line + n })
    | none => .error (l.fault (.endless "string constant" '"' rest))
  | '/' :: rest =>
    if l.last.endsValue then sign l
    else match slashed false [] rest with
      | some (cs, rest) => .ok (some (.pattern cs), { l with rest := rest })
      | none => .error (l.fault (.endless "regular expression" '/' rest))
  | c :: rest =>
    if c.isDigit || (c = '.' && rest.head?.any Char.isDigit) then
      let (x, out) := number l.rest
      let cs := l.rest.take (l.rest.length - out.length)
      if x.isInfinite then .error (l.fault (.overflow cs))
      else .ok (some (.number x cs), { l with rest := out })
    else if c.isAlpha || c = '_' then
      let cs := l.rest.takeWhile isNameChar
      let (t, l) := named { l with rest := l.rest.drop cs.length } cs
      .ok (some t, l)
    else sign l
where
  /-- The sign at the start of a text, or a character that is none. -/
  sign (l : Lexing) : Except Fault (Option Token × Lexing) :=
    match Token.signs.find? fun s => s.toList.isPrefixOf l.rest with
    | some s =>
      let s := if s = ">=" && l.printing && l.parens = 0 then ">" else s
      .ok (signed { l with rest := l.rest.drop s.length } s)
    | none => .ok (some (.unexpected (l.rest.headD ' ')), { l with rest := l.rest.drop 1 })

/-- All tokens of a text that is at most so long, behind those before, and what is wrong. The tokens
end with the text, with a character that starts none, or where an error ends everything. -/
def tokens : Nat → Lexing → Array Lexeme → Array Lexeme × List Fault
  | 0, l, done => (done, l.faults)
  | n + 1, l, done =>
    let line := (pastBlanks (l.rest.length + 1) l).line
    match token l with
    | .error fault => (done, fault :: l.faults)
    | .ok (none, l) => tokens n l done
    | .ok (some t, l) =>
      let done := done.push ⟨t, line, l.parens, l.braces⟩
      if t = .finish || t matches .unexpected _ then (done, l.faults)
      else tokens n { l with last := t, place := l.place + 1 } done

/-- The tokens of a text, and what is wrong. -/
def readAll (cs : Bytes) : Array Lexeme × List Fault :=
  let start : Lexing := pastLines
    { rest := cs, line := 1, parens := 0, braces := 0, last := .feed, printing := false
      functions := [], known := [], place := 0, faults := [] }
  let (tokens, faults) := tokens (2 * cs.length + 4) start #[]
  (tokens, faults.reverse)

end Lexing

end ActionTree.Sh.Scan
