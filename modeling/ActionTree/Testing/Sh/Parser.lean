import ActionTree.Testing.Sh.Token

/-!
# Reading shell commands

The shell reads a text line by line: a line may hold several commands and is carried out before the
next one is read. A compound command may go on over several lines.

* `line`: the commands of the next line.
* `list`: commands inside of a compound command, up to a token that ends them.
-/

namespace ActionTree.Sh.Parser

/-- Tokens that may end a list: closing ones and the keywords behind a list. -/
def endsList : Token → Bool
  | .operator t => t = ")" || t = ";;"
  | .word w =>
    match keyword? w with
    | some k => ["do", "done", "elif", "else", "esac", "fi", "then", "\x7d"].contains k
    | none => false
  | _ => false

/-- Is the token this keyword? -/
def isKeyword (k : String) : Token → Bool
  | .word w => keyword? w == some k
  | _ => false

/-- Is the token this operator? -/
def isOperator (o : String) : Token → Bool
  | .operator t => t == o
  | _ => false

/-- Two lists of commands, one after the other. -/
def joined : Command → Command → Command
  | .nothing, c => c
  | c, .nothing => c
  | c, d => .seq c d

/-- A text that is read. Words may be aliases of other texts, which are put in their places. -/
structure Source where
  text : Bytes
  /-- The number of line breaks in the whole text. -/
  breaks : Nat
  aliases : List (Bytes × Bytes)
  /-- The aliases whose texts are being read, each with the length of the text behind it. -/
  used : List ((Bytes × Bytes) × Nat)

/-- The source with another text. -/
def Source.at_ (s : Source) (text : Bytes) : Source := { s with text := text }

/-- The line on which the rest of a text starts, given the number of line breaks in the whole. -/
def lineOf (breaks : Nat) (rest : Bytes) : Nat := breaks - rest.count '\n' + 1

/-- The line on which a source goes on. -/
def Source.line (s : Source) : Nat := lineOf s.breaks s.text

/-- The source behind a place, at which some aliases end, and whether a blank ends one of them. -/
def Source.settled (s : Source) (length : Nat) : Source × Bool :=
  let (ended, going) := s.used.partition fun u => length ≤ u.2
  let endsBlank (text : Bytes) : Bool := text.getLast? = some ' ' || text.getLast? = some '\t'
  ({ s with used := going }, ended.any fun u => endsBlank u.1.2)

/-- The alias that a word is and that is not being replaced already. -/
def Source.alias? (s : Source) (w : Word) : Option (Bytes × Bytes) :=
  if s.aliases.isEmpty then none
  else match plainText? w with
    | some name => (s.aliases.find? (·.1 = name)).filter fun _ => !s.used.any (·.1.1 = name)
    | none => none

/-- A reader of commands. -/
abbrev Reading (α : Type) := Source → Except SyntaxError (α × Source)

/-- Where a token is read. -/
structure Spot where
  /-- Line breaks are passed over. -/
  overBreaks : Bool
  /-- A word may be an alias. -/
  aliases : Bool
  /-- A word may be a keyword. -/
  keywords : Bool

/-- Where a command starts, perhaps on a later line. -/
def Spot.command : Spot := ⟨true, true, true⟩

/-- Where a command starts on this line. -/
def Spot.here : Spot := ⟨false, true, true⟩

/-- Inside of a command. -/
def Spot.inside : Spot := ⟨false, false, false⟩

/-- Where a keyword or an operator stands, perhaps on a later line. -/
def Spot.keyword : Spot := ⟨true, false, true⟩

/-- The error that a token cannot stand here. -/
def unexpected {α : Type} (t : Token) (s : Source) (expected : Option String)
    (keywordsCount : Bool) : Except SyntaxError α :=
  .error ⟨.unexpected (t.text keywordsCount) expected, s.text⟩

/-- The error that a text is nested too deep to be read. -/
def tooDeep {α : Type} (s : Source) : Except SyntaxError α := .error ⟨.unterminatedQuote, s.text⟩

mutual

/-- The next token. -/
def next : Nat → Spot → Reading Token
  | 0, _, s => tooDeep s
  | n + 1, spot, s => do
    let start := skipBlanks s.text
    let (s, blank) := s.settled start.length
    let (t, rest) ← token (nested n s) start
    match t with
    | .newline => if spot.overBreaks then next n spot (s.at_ rest) else return (t, s.at_ rest)
    | .word w =>
      match if spot.aliases || blank then s.alias? w else none with
      | some a =>
        if spot.keywords && (keyword? w).isSome then return (t, s.at_ rest)
        else
          next n { spot with aliases := true }
            { s with text := a.2 ++ rest, used := (a, rest.length) :: s.used }
      | none => return (t, s.at_ rest)
    | t => return (t, s.at_ rest)

/-- The commands inside of a word. -/
def nested : Nat → Source → Nested
  | 0, _, _, cs => .error ⟨.unterminatedQuote, cs⟩
  | n + 1, s, closing, cs => do
    let (c, s) ← list n true { s with text := cs, used := [] }
    let (t, s) ← next n .keyword s
    match closing, t with
    | true, .operator ")" => return (c, s.text)
    | false, .eof => return (c, s.text)
    | true, t => unexpected t s (some "\")\"") true
    | false, t => unexpected t s none true

/-- Commands up to a token that ends them; at least one, unless they may be missing. -/
def list : Nat → Bool → Reading Command
  | 0, _, s => tooDeep s
  | n + 1, mayEnd, s => do
    let (t, rest) ← next n .command s
    match t with
    | .eof => return (.nothing, rest)
    | t =>
      if mayEnd && endsList t then return (.nothing, s)
      let (c, after) ← chain n t rest
      let (t, out) ← next n .here after
      match t with
      | .operator "&" =>
        (list n true out).map fun (d, end_) => (joined (.background c) d, end_)
      | .operator ";" | .newline => (list n true out).map fun (d, end_) => (joined c d, end_)
      | _ => return (c, after)

/-- Pipelines joined by `&&` and `||`, of which the first token has been read. -/
def chain : Nat → Token → Reading Command
  | 0, _, s => tooDeep s
  | n + 1, t, s => do
    let (c, s) ← pipeline n t s
    chainMore n c s

/-- What follows a pipeline in a chain. -/
def chainMore : Nat → Command → Reading Command
  | 0, _, s => tooDeep s
  | n + 1, c, s => do
    let (t, rest) ← next n .here s
    match t with
    | .operator "&&" => do
      let (t, rest) ← next n .command rest
      let (d, out) ← pipeline n t rest
      chainMore n (.andThen c d) out
    | .operator "||" => do
      let (t, rest) ← next n .command rest
      let (d, out) ← pipeline n t rest
      chainMore n (.orElse c d) out
    | _ => return (c, s)

/-- Commands joined by `|`, perhaps negated. -/
def pipeline : Nat → Token → Reading Command
  | 0, _, s => tooDeep s
  | n + 1, t, s => do
    if isKeyword "!" t then
      let (t, rest) ← next n .here s
      let (c, rest) ← command n t rest
      (pipeMore n c rest).map fun (c, out) => (.negated c, out)
    else
      let (c, rest) ← command n t s
      pipeMore n c rest

/-- What follows a command in a pipeline. -/
def pipeMore : Nat → Command → Reading Command
  | 0, _, s => tooDeep s
  | n + 1, c, s => do
    let (t, rest) ← next n .here s
    match t with
    | .operator "|" => do
      let (t, rest) ← next n .command rest
      let (d, rest) ← command n t rest
      (pipeMore n d rest).map fun (d, out) => (.pipe c d, out)
    | _ => return (c, s)

/-- A command, of which the first token has been read. -/
def command : Nat → Token → Reading Command
  | 0, _, s => tooDeep s
  | n + 1, t, s => do
    let at_ := s.line
    match t with
    | .operator "(" => do
      let (c, rest) ← list n false s
      let (_, rest) ← expect n ")" rest
      (redirects n rest).map fun (rs, out) => (.subshell at_ c rs, out)
    | .redirect .. => simple n at_ true [] [] [] t s
    | .word w => match keyword? w with
      | none => simple n at_ true [] [] [] t s
      | some "if" => do
        let (c, rest) ← conditional n s
        (redirects n rest).map fun (rs, out) => (.group at_ c rs, out)
      | some "while" | some "until" => do
        let (test, rest) ← list n false s
        let (_, rest) ← expect n "do" rest
        let (body, rest) ← list n false rest
        let (_, rest) ← expect n "done" rest
        let c := .loop (keyword? w == some "until") test body
        (redirects n rest).map fun (rs, out) => (.group at_ c rs, out)
      | some "for" => do
        let (c, rest) ← forEach n at_ s
        (redirects n rest).map fun (rs, out) => (.group at_ c rs, out)
      | some "case" => do
        let (c, rest) ← choice n at_ s
        (redirects n rest).map fun (rs, out) => (.group at_ c rs, out)
      | some "\x7b" => do
        let (c, rest) ← list n false s
        let (_, rest) ← expect n "\x7d" rest
        (redirects n rest).map fun (rs, out) => (.group at_ c rs, out)
      | some _ => unexpected t s none true
    | t => unexpected t s none true

/-- A keyword or an operator that has to follow a list. -/
def expect : Nat → String → Reading Unit
  | 0, _, s => tooDeep s
  | n + 1, what, s => do
    let (t, rest) ← next n .keyword s
    if isKeyword what t || isOperator what t then return ((), rest)
    else unexpected t rest (some ("\"" ++ what ++ "\"")) true

/-- The test and the branches of an `if`, of which the keyword has been read. -/
def conditional : Nat → Reading Command
  | 0, s => tooDeep s
  | n + 1, s => do
    let (test, rest) ← list n false s
    let (_, rest) ← expect n "then" rest
    let (body, s) ← list n false rest
    let (t, rest) ← next n .keyword s
    if isKeyword "elif" t then
      (conditional n rest).map fun (c, out) => (.cond test body c, out)
    else if isKeyword "else" t then
      let (other, rest) ← list n false rest
      let (_, rest) ← expect n "fi" rest
      return (.cond test body other, rest)
    else
      let (_, rest) ← expect n "fi" s
      return (.cond test body .nothing, rest)

/-- The variable, the words and the body of a `for`, of which the keyword has been read. -/
def forEach : Nat → Nat → Reading Command
  | 0, _, s => tooDeep s
  | n + 1, at_, s => do
    let (t, rest) ← next n .inside s
    let name := match t with
      | .word w => ((plainText? w).filter isName).getD []
      | _ => []
    if name.isEmpty then .error ⟨.badLoopVariable, rest.text⟩
    let (t, out) ← next n .keyword rest
    let (words, rest) ←
      if isKeyword "in" t then (forWords n out).map fun (ws, out) => (some ws, out)
      else if isOperator ";" t then pure (none, out)
      else pure (none, rest)
    let (_, rest) ← expect n "do" rest
    let (body, rest) ← list n false rest
    let (_, rest) ← expect n "done" rest
    return (.each at_ name words body, rest)

/-- The word and the branches of a `case`, of which the keyword has been read. -/
def choice : Nat → Nat → Reading Command
  | 0, _, s => tooDeep s
  | n + 1, at_, s => do
    let (t, rest) ← next n .inside s
    match t with
    | .word w => do
      let (_, rest) ← expect n "in" rest
      let (t, rest) ← next n .keyword rest
      (branches n t rest).map fun (bs, out) => (.choose at_ w bs, out)
    | t => unexpected t rest (some "word") false

/-- The branches of a `case` and its last keyword, of which the first token has been read. -/
def branches : Nat → Token → Reading (List (List Word × Command))
  | 0, _, s => tooDeep s
  | n + 1, t, s => do
    if isKeyword "esac" t then return ([], s)
    let (t, rest) ← if isOperator "(" t then next n .inside s else pure (t, s)
    let (ps, rest) ← patterns n t rest
    let (c, rest) ← list n true rest
    let (t, rest) ← next n .keyword rest
    if isKeyword "esac" t then return ([(ps, c)], rest)
    else if isOperator ";;" t then do
      let (t, rest) ← next n .keyword rest
      (branches n t rest).map fun (bs, out) => ((ps, c) :: bs, out)
    else unexpected t rest (some "\";;\"") true

/-- Patterns with `|` between them, of which the first token has been read, and the parenthesis
behind them. -/
def patterns : Nat → Token → Reading (List Word)
  | 0, _, s => tooDeep s
  | n + 1, t, s => do
    let w := match t with
      | .word w => w
      | _ => []
    let (t, rest) ← next n .inside s
    match t with
    | .operator "|" => do
      let (t, rest) ← next n .inside rest
      (patterns n t rest).map fun (ws, out) => (w :: ws, out)
    | .operator ")" => return ([w], rest)
    | t => unexpected t rest (some "\")\"") false

/-- Words up to the end of a line or a semicolon. -/
def forWords : Nat → Reading (List Word)
  | 0, s => tooDeep s
  | n + 1, s => do
    let (t, rest) ← next n .inside s
    match t with
    | .word w => (forWords n rest).map fun (ws, out) => (w :: ws, out)
    | .operator ";" | .newline => return ([], rest)
    | t => unexpected t rest none false

/-- The redirections behind a compound command. -/
def redirects : Nat → Reading (List Redirect)
  | 0, s => tooDeep s
  | n + 1, s => do
    let (t, rest) ← next n .inside s
    match t with
    | .redirect fd dir => do
      let (target, rest) ← target n dir rest
      (redirects n rest).map fun (rs, out) => (.mk fd dir target :: rs, out)
    | _ => return ([], s)

/-- The word behind a redirection; if it only ends the lines that are read, those lines. -/
def target : Nat → Direction → Reading Word
  | 0, _, s => tooDeep s
  | n + 1, dir, s => do
    let (t, rest) ← next n .inside s
    match t, dir with
    | .word w, .here strip =>
      let (lines, out) := cutLines (nested n rest) strip (rawText w) rest.text
      if hasQuotes w then return (lines.map (.char true), rest.at_ out)
      let (v, _) ← pieces (nested n rest) (2 * lines.length + 2) .here lines
      return (v, rest.at_ out)
    | .word w, _ => return (w, rest)
    | t, _ => unexpected t rest none false

/-- A simple command, with what has been read of it and the token that comes next. Assignments count
only in front of the first word. -/
def simple : Nat → Nat → Bool → List (Bytes × Word) → List Word → List Redirect → Token →
    Reading Command
  | 0, _, _, _, _, _, _, s => tooDeep s
  | n + 1, at_, mayAssign, vars, words, rs, t, s => do
    match t with
    | .redirect fd dir => do
      let (target, s) ← target n dir s
      let rs := rs ++ [.mk fd dir target]
      let (t, rest) ← next n ⟨false, mayAssign, false⟩ s
      simpleMore n at_ mayAssign vars words rs t s rest
    | .word w =>
      match if mayAssign then assignment? w else none with
      | some a => do
        let (t, rest) ← next n ⟨false, true, false⟩ s
        simpleMore n at_ mayAssign (vars ++ [a]) words rs t s rest
      | none => do
        let (t, rest) ← next n .inside s
        simpleMore n at_ false vars (words ++ [w]) rs t s rest
    | _ => return (.simple at_ vars words rs, s)

/-- The rest of a simple command, from a token on whose text starts where the command may end. -/
def simpleMore : Nat → Nat → Bool → List (Bytes × Word) → List Word → List Redirect → Token →
    Source → Reading Command
  | 0, _, _, _, _, _, _, _, s => tooDeep s
  | n + 1, at_, mayAssign, vars, words, rs, t, before, s => do
    match t with
    | .redirect .. | .word _ => simple n at_ mayAssign vars words rs t s
    | .operator "(" =>
      match words, vars.isEmpty && rs.isEmpty with
      | [w], true => definition n w s
      | _, _ => return (.simple at_ vars words rs, before)
    | _ => return (.simple at_ vars words rs, before)

/-- The definition of a function, of which the name and the opening parenthesis have been read. -/
def definition : Nat → Word → Reading Command
  | 0, _, s => tooDeep s
  | n + 1, w, s => do
    let (t, rest) ← next n .inside s
    if !isOperator ")" t then unexpected t rest (some "\")\"") false
    else
      let name := ((plainText? w).filter fun x => isName x && !isReserved x).getD []
      if name.isEmpty then .error ⟨.badFunctionName, rest.text⟩
      else
        let (t, rest) ← next n .command rest
        (command n t rest).map fun (c, out) => (.define name c, out)

end

/-- The commands of a line. -/
def lineFrom (fuel : Nat) : Nat → Reading Command
  | 0, s => tooDeep s
  | n + 1, s => do
    let (t, rest) ← next fuel .here s
    match t with
    | .eof => return (.nothing, rest)
    | .newline => return (.nothing, rest)
    | t => do
      let (c, after) ← chain fuel t rest
      let (t, rest) ← next fuel .here after
      match t with
      | .eof => return (c, rest)
      | .newline => return (c, rest)
      | .operator ";" => (lineFrom fuel n rest).map fun (d, out) => (joined c d, out)
      | .operator "&" =>
        (lineFrom fuel n rest).map fun (d, out) => (joined (.background c) d, out)
      | t => unexpected t rest none false

/-- The commands of the next line of a text, given the number of line breaks in the whole text and
the aliases, and the text behind that line. -/
def line (breaks : Nat) (aliases : List (Bytes × Bytes)) (cs : Bytes) :
    Except SyntaxError (Command × Bytes) := do
  let more := (aliases.map (·.2.length)).foldl (· + ·) 0
  let fuel := 8 * cs.length * (more + 1) + 64
  (lineFrom fuel fuel ⟨cs, breaks, aliases, []⟩).map fun (c, s) => (c, s.text)

end ActionTree.Sh.Parser
