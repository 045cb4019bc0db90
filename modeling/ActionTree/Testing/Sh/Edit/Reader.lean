import ActionTree.Testing.Sh.Disk
import ActionTree.Testing.Sh.Edit.Basic
import ActionTree.Testing.Sh.Format

/-!
# Reading scripts

A script is given in parts, arguments or files. A text that ends with a backslash at the end of a
part goes on in the next one, and so do blocks.

* `Edit.readAll`: the script that parts are.
* `Edit.Fault`: why they are none.
-/

namespace ActionTree.Sh.Edit

/-- Why a script cannot be read. -/
inductive Cause where
  | unknown (c : Char)
  | missing
  | extra
  | comma
  | twoBangs
  | lineZero
  | relativeFirst
  | openAddress
  | openSubstitution
  | openTranslation
  | unequalTranslation
  | unknownFlag
  | twice (flag : Char)
  | twoNumbers
  | numberZero
  | noGroup (n : Nat)
  | modifiedEmpty
  | noExpression
  | expression (e : ExpressionFault)
  | openBlock
  | closedBlock
  | closingAddress
  | commentAddress
  | labelAddress
  | noLabel
  | oneAddress
  | noText
  | noFile
  | newer

/-- What is said of a script that cannot be read. -/
def Cause.message : Cause → Bytes
  | .unknown c => "unknown command: \x60".toList ++ c :: ['\x27']
  | .missing => "missing command".toList
  | .extra => "extra characters after command".toList
  | .comma => "unexpected \x60,'".toList
  | .twoBangs => "multiple \x60!'s".toList
  | .lineZero => "invalid usage of line address 0".toList
  | .relativeFirst => "invalid usage of +N or ~N as first address".toList
  | .openAddress => "unterminated address regex".toList
  | .openSubstitution => "unterminated \x60s' command".toList
  | .openTranslation => "unterminated \x60y' command".toList
  | .unequalTranslation => "strings for \x60y' command are different lengths".toList
  | .unknownFlag => "unknown option to \x60s'".toList
  | .twice c => "multiple \x60".toList ++ c :: "' options to \x60s' command".toList
  | .twoNumbers => "multiple number options to \x60s' command".toList
  | .numberZero => "number option to \x60s' command may not be zero".toList
  | .noGroup n => "invalid reference \\".toList ++ decimal n ++ " on \x60s' command's RHS".toList
  | .modifiedEmpty => "cannot specify modifiers on empty regexp".toList
  | .noExpression => "no previous regular expression".toList
  | .expression e => e.message
  | .openBlock => "unmatched \x60\x7b'".toList
  | .closedBlock => "unexpected \x60\x7d'".toList
  | .closingAddress => "\x60\x7d' doesn't want any addresses".toList
  | .commentAddress => "comments don't accept any addresses".toList
  | .labelAddress => ": doesn't want any addresses".toList
  | .noLabel => "\":\" lacks a label".toList
  | .oneAddress => "command only uses one address".toList
  | .noText => "expected \\ after \x60a', \x60c' or \x60i'".toList
  | .noFile => "missing filename in r/R/w/W commands".toList
  | .newer => "expected newer version of sed".toList

/-- Where a part of a script comes from. -/
inductive Origin where
  /-- An argument, counted from 1. -/
  | argument (n : Nat)
  | file (name : Bytes)

/-- The text of a place, so many characters and lines behind the start of a part. -/
def Origin.place (o : Origin) (used lines : Nat) : Bytes :=
  match o with
  | .argument n => "-e expression #".toList ++ decimal n ++ ", char ".toList ++ decimal used
  | .file name => "file ".toList ++ name ++ " line ".toList ++ decimal (lines + 1)

/-- Why a script cannot be read, and where. -/
structure Fault where
  cause : Cause
  place : Bytes

/-- What is said of a fault. -/
def Fault.message (f : Fault) : Bytes := f.place ++ ": ".toList ++ f.cause.message

/-- What is left of a part of a script, how much of it was read, and what was found so far. -/
structure Reading where
  origin : Origin
  rest : Bytes
  used : Nat
  lines : Nat
  isFirst : Bool
  extended : Bool
  steps : Array Step
  labels : List (Bytes × Nat)
  /-- The blocks that are open, each with where it was opened. -/
  blocks : List (Nat × Bytes)
  silent : Bool
  /-- Does the text of the last command go on in the next part? -/
  hasOpenText : Bool

/-- A computation that reads a script. -/
abbrev Reader (α : Type) := StateT Reading (Except Fault) α

/-- Stops at a fault. -/
def fail {α : Type} (c : Cause) : Reader α := do
  let r ← get
  throw ⟨c, r.origin.place r.used r.lines⟩

/-- The next character, which is not taken yet. -/
def peek : Reader (Option Char) := return (← get).rest.head?

/-- Takes the next character. -/
def next : Reader (Option Char) := do
  let r ← get
  match r.rest with
  | [] => return none
  | c :: rest => do
    set { r with
      rest := rest, used := r.used + 1, lines := if c = '\n' then r.lines + 1 else r.lines }
    return some c

/-- Takes all characters up to the first one that is not wanted. -/
def takeWhile (wanted : Char → Bool) : Reader Bytes := do
  let r ← get
  let cs := r.rest.takeWhile wanted
  set { r with
    rest := r.rest.drop cs.length
    used := r.used + cs.length
    lines := r.lines + cs.count '\n' }
  return cs

/-- Is the character a blank? -/
def isBlank (c : Char) : Bool := c = ' ' || c = '\t'

/-- The next character behind blanks, which is not taken yet. -/
def peekFilled : Reader (Option Char) := do
  discard (takeWhile isBlank)
  peek

/-- The number that digits are. -/
def number : Reader Nat := return Text.number (← takeWhile Char.isDigit)

/-! ## Delimited texts -/

/-- The bracket expression at the start of a text, behind its opening bracket, in reverse, and what
is behind it. A line feed is written as `n` behind a backslash. -/
def bracketed (isFirst : Bool) : Nat → Bytes → Bytes → Bytes × Bytes
  | 0, done, cs => (done, cs)
  | n + 1, done, cs =>
    match cs with
    | [] => (done, [])
    | '\n' :: _ => (done, cs)
    | ']' :: rest =>
      if isFirst then bracketed false n (']' :: done) rest else (']' :: done, rest)
    | '[' :: mark :: rest =>
      match if [':', '.', '='].contains mark then Expression.upToMark? mark [] rest else none with
      | some (name, out) =>
        bracketed false n ([']', mark] ++ name.reverse ++ [mark, '['] ++ done) out
      | none => bracketed false n ('[' :: done) (mark :: rest)
    | '\\' :: 'n' :: rest => bracketed false n ('\n' :: done) rest
    | c :: rest => bracketed false n (c :: done) rest

/-- A text up to a delimiter, in reverse, and what is behind it, which starts with the delimiter if
there is one. A delimiter behind a backslash belongs to the text. In an expression a line feed is
written as `n` behind a backslash, and delimiters between brackets belong to the text. -/
def upTo (delimiter : Char) (isExpression : Bool) : Nat → Bytes → Bytes → Bytes × Bytes
  | 0, done, cs => (done, cs)
  | k + 1, done, cs =>
    match cs with
    | [] => (done, [])
    | ['\\'] => (done, [])
    | c :: rest =>
      if c = delimiter || c = '\n' then (done, cs)
      else if c = '\\' then
        match rest with
        | 'n' :: more =>
          let added := if isExpression then ['\n'] else ['n', '\\']
          upTo delimiter isExpression k (added ++ done) more
        | d :: more =>
          let bare := d = '\n' || (d = delimiter && (isExpression || d ≠ '&'))
          upTo delimiter isExpression k (if bare then d :: done else d :: '\\' :: done) more
        | [] => (done, [])
      else if c = '[' && isExpression then
        let (start, rest) : Bytes × Bytes := match rest with
          | '^' :: more => (['^', '['], more)
          | more => (['['], more)
        let (inner, out) := bracketed true (rest.length + 1) (start ++ done) rest
        upTo delimiter isExpression k inner out
      else upTo delimiter isExpression k (c :: done) rest

/-- A text up to a delimiter, which is taken too. -/
def delimited (delimiter : Char) (isExpression : Bool) (open_ : Cause) : Reader Bytes := do
  let r ← get
  let (done, out) := upTo delimiter isExpression (r.rest.length + 1) [] r.rest
  let consumed := r.rest.take (r.rest.length - out.length)
  set { r with
    rest := out
    used := r.used + consumed.length
    lines := r.lines + consumed.count '\n' }
  match out with
  | c :: _ =>
    if c = delimiter then
      discard next
      return done.reverse
    else fail open_
  | [] => fail open_

/-- Takes a delimiter. -/
def delimiter (open_ : Cause) : Reader Char := do
  match ← peek with
  | some c =>
    if c = '\n' || c = '\\' then fail open_
    else
      discard next
      return c
  | none => fail open_

/-! ## Escapes -/

/-- The character of a number in a base with at most so many digits behind a letter, and the text
behind it. -/
def coded? (base most : Nat) (cs : Bytes) : Option (Char × Bytes) :=
  let ds := (cs.take most).takeWhile fun c => (Arith.digit? base c).isSome
  if ds.isEmpty then none else some (byteChar (Arith.digits base 0 ds).1, cs.drop ds.length)

/-- The character that an escape stands for behind its backslash, and the text behind it. -/
def escaped? : Bytes → Option (Char × Bytes)
  | 'a' :: rest => some ('\x07', rest)
  | 'f' :: rest => some ('\x0c', rest)
  | 'r' :: rest => some ('\r', rest)
  | 't' :: rest => some ('\t', rest)
  | 'v' :: rest => some ('\x0b', rest)
  | 'c' :: c :: rest => some (byteChar (c.toUpper.toNat ^^^ 0x40), rest)
  | 'd' :: rest => coded? 10 3 rest
  | 'o' :: rest => coded? 8 3 rest
  | 'x' :: rest => coded? 16 2 rest
  | _ => none

/-- A text that is at most so long with its escapes carried out; those of some characters get a
backslash, and all other escapes stay. -/
def resolved (kept : List Char) : Nat → Bytes → Bytes
  | 0, cs => cs
  | n + 1, cs =>
    match cs with
    | '\\' :: rest =>
      match escaped? rest, rest with
      | some (c, out), _ =>
        if kept.contains c then '\\' :: c :: resolved kept n out else c :: resolved kept n out
      | none, ['c'] => ['\\']
      | none, d :: out => '\\' :: d :: resolved kept n out
      | none, [] => ['\\']
    | c :: rest => c :: resolved kept n rest
    | [] => []

/-- A text without the backslashes in front of characters; `\n` is a line feed. -/
def unquoted : Bytes → Bytes
  | '\\' :: 'n' :: rest => '\n' :: unquoted rest
  | '\\' :: c :: rest => c :: unquoted rest
  | ['\\'] => []
  | c :: rest => c :: unquoted rest
  | [] => []

/-- The expression that a text is, with the number of its groups; none if it is empty. -/
def rule (cs : Bytes) (ignoresCase hasLines : Bool) : Reader (Option (Rule × Nat)) := do
  if cs.isEmpty then
    if ignoresCase || hasLines then fail .modifiedEmpty else return none
  else match Expression.read ⟨(← get).extended, false⟩ (resolved [] cs.length cs) with
    | .ok (e, groups) => return some (⟨e, ignoresCase, hasLines⟩, groups)
    | .error e => fail (.expression e)

/-! ## Addresses -/

/-- Letters behind an expression: whether case counts, and whether there are lines in the text. -/
def modifiers : Nat → Bool → Bool → Reader (Bool × Bool)
  | 0, i, m => return (i, m)
  | n + 1, i, m => do
    match ← peekFilled with
    | some 'I' => do
      discard next
      modifiers n true m
    | some 'M' => do
      discard next
      modifiers n i true
    | _ => return (i, m)

/-- What may stand at the place of an address. -/
inductive Found where
  | address (a : Address)
  | lines (n : Nat)
  | multiple (n : Nat)

/-- An expression as an address. -/
def expressionAddress (delimiter : Char) : Reader Found := do
  let text ← delimited delimiter true .openAddress
  let (i, m) ← modifiers (← get).rest.length false false
  return .address (.fits ((← rule text i m).map (·.1)))

/-- The address at this place, if there is one. -/
def address? : Reader (Option Found) := do
  match ← peek with
  | some '/' => do
    discard next
    expressionAddress '/'
  | some '\\' => do
    discard next
    match ← next with
    | some c => expressionAddress c
    | none => fail .openAddress
  | some '$' => do
    discard next
    return some (.address .last)
  | some '+' => do
    discard next
    discard (takeWhile isBlank)
    return some (.lines (← number))
  | some '~' => do
    discard next
    discard (takeWhile isBlank)
    return some (.multiple (← number))
  | some c =>
    if !c.isDigit then return none
    let first ← number
    if (← peekFilled) ≠ some '~' then return some (.address (.line first))
    discard next
    discard (takeWhile isBlank)
    let step ← number
    return some (.address (if step = 0 then .line first else .every first step))
  | none => return none

/-- The selection in front of a command. -/
def selection : Reader Selection := do
  let first ← address?
  let (first, extent) ← match first with
    | none => pure (none, none)
    | some (.address a) => do
      if (← peekFilled) = some ',' then
        discard next
        discard (takeWhile isBlank)
        let extent ← match ← address? with
          | some (.address b) => pure (Extent.upTo b)
          | some (.lines n) => pure (.lines n)
          | some (.multiple n) => pure (.multiple n)
          | none => do
            discard next
            fail .comma
        pure (some a, some extent)
      else pure (some a, none)
    | some _ => fail .relativeFirst
  discard (takeWhile isBlank)
  match first, extent with
  | some (.line 0), some (.upTo (.fits _)) => pure ()
  | some (.line 0), _ => do
    discard next
    fail .lineZero
  | _, _ => pure ()
  if (← peek) = some '!' then
    discard next
    if (← peekFilled) = some '!' then
      discard next
      fail .twoBangs
    return ⟨first, extent, true⟩
  else return ⟨first, extent, false⟩

/-! ## Commands -/

/-- Goes to the end of a command. -/
def commandEnd : Reader Unit := do
  match ← peekFilled with
  | some '\x7d' | some '#' | none => pure ()
  | some c => do
    discard next
    if c ≠ '\n' && c ≠ ';' then fail .extra

/-- A label: all up to a blank, a semicolon or a closing brace. -/
def label (closes : Bool) : Reader Bytes := do
  discard (takeWhile isBlank)
  let name ← takeWhile fun c => !(Arith.isSpace c || c = ';' || (closes && c = '\x7d'))
  match ← peek with
  | some '\x7d' | none => pure ()
  | some _ => discard next
  return name

/-- The name of a file: the rest of the line. -/
def fileName : Reader Bytes := do
  discard (takeWhile isBlank)
  let name ← takeWhile (· ≠ '\n')
  discard next
  if name.isEmpty then fail .noFile else return name

/-- The text of a command in reverse, up to the end of a line, and what is behind it; whether it
goes on in the next part. -/
def textLines : Bytes → Bytes → Bytes × Bytes × Bool
  | done, [] => ('\n' :: done, [], false)
  | done, ['\\'] => (done, [], true)
  | done, '\n' :: rest => ('\n' :: done, rest, false)
  | done, '\\' :: c :: rest => textLines (c :: '\\' :: done) rest
  | done, c :: rest => textLines (c :: done) rest

/-- Takes the text of a command; a backslash in front of its first character is left out. -/
def text (isGuarded : Bool) : Reader Bytes := do
  let r ← get
  let (done, out, isOpen) := textLines [] r.rest
  let consumed := r.rest.take (r.rest.length - out.length)
  set { r with
    rest := out
    used := r.used + consumed.length
    lines := r.lines + consumed.count '\n'
    hasOpenText := isOpen }
  let cs := if isOpen && !done.isEmpty then ('\n' :: done).reverse else done.reverse
  let (first, cs) : Bytes × Bytes := match isGuarded, cs with
    | true, c :: rest => if c = '\\' || c = '\n' then ([], cs) else ([c], rest)
    | _, cs => ([], cs)
  return first ++ unquoted (resolved ['\\'] cs.length cs)

/-- The text of a command that appends, inserts or changes: on the same line, or behind a backslash
and a line feed. -/
def commandText : Reader Bytes := do
  match ← peekFilled with
  | none => fail .noText
  | some '\\' => do
    discard next
    match ← peek with
    | some '\n' => do
      discard next
      text false
    | none => do
      modify fun r => { r with hasOpenText := true }
      return []
    | some _ => text true
  | some _ => text false

/-- The pieces of a replacement. -/
def pieces : Bytes → List Piece
  | '\\' :: c :: rest =>
    let piece : Piece := match c with
      | 'L' => .casing .lower
      | 'U' => .casing .upper
      | 'E' => .casing .plain
      | 'l' => .casing .nextLower
      | 'u' => .casing .nextUpper
      | 'n' => .char '\n'
      | c => if c.isDigit then .group (c.toNat - '0'.toNat) else .char c
    piece :: pieces rest
  | '&' :: rest => .group 0 :: pieces rest
  | c :: rest => .char c :: pieces rest
  | [] => []

/-- What the letters behind a replacement say. -/
structure Flags where
  all : Bool
  printed : Bool
  ignoresCase : Bool
  hasLines : Bool
  start : Option Nat
  file : Option Bytes

/-- The letters behind a replacement, of which there are at most so many. -/
def flags : Nat → Flags → Reader Flags
  | 0, f => return f
  | n + 1, f => do
    match ← peek with
    | none | some '\x7d' | some '#' => return f
    | some c =>
      if c.isDigit then
        let k ← number
        if f.start.isSome then fail .twoNumbers
        if k = 0 then fail .numberZero
        flags n { f with start := some k }
      else
        discard next
        match c with
        | '\n' | ';' => return f
        | ' ' | '\t' => flags n f
        | 'g' => if f.all then fail (.twice c) else flags n { f with all := true }
        | 'p' => if f.printed then fail (.twice c) else flags n { f with printed := true }
        | 'i' | 'I' => flags n { f with ignoresCase := true }
        | 'm' | 'M' => flags n { f with hasLines := true }
        | 'w' => return { f with file := some (← fileName) }
        | _ => fail .unknownFlag

/-- A replacement. -/
def substitution : Reader Substitution := do
  let d ← delimiter .openSubstitution
  let first ← delimited d true .openSubstitution
  let second ← delimited d false .openSubstitution
  let f ← flags ((← get).rest.length + 1) ⟨false, false, false, false, none, none⟩
  let found ← rule first f.ignoresCase f.hasLines
  let pieces := pieces (resolved ['&', '\\'] second.length second)
  let most := pieces.foldl (fun k p => match p with
    | .group n => max k n
    | _ => k) 0
  if let some (_, groups) := found then
    if groups < most then fail (.noGroup most)
  return ⟨found.map (·.1), pieces, f.start.getD 1, f.all, f.printed, f.file⟩

/-- Characters and what takes their places. -/
def translation : Reader (List (Char × Char)) := do
  let d ← delimiter .openTranslation
  let first ← delimited d false .openTranslation
  let second ← delimited d false .openTranslation
  let plain (cs : Bytes) : Bytes := unquoted (resolved ['\\'] cs.length cs)
  let (known, shown) := (plain first, plain second)
  if known.length ≠ shown.length then fail .unequalTranslation
  commandEnd
  return known.zip shown

/-- Is a version of the language one that is known? -/
def isKnownVersion (cs : Bytes) : Bool :=
  let ns := (splitAt '.' cs).map Text.number
  match ns with
  | major :: minor :: _ => major < 4 || (major = 4 && minor ≤ 9)
  | [major] => major ≤ 4
  | [] => true

/-- A number behind a command, if there is one. -/
def argument? : Reader (Option Nat) := do
  let found := (← peekFilled).any Char.isDigit
  let n ← number
  commandEnd
  return if found then some n else none

/-- A command that stands alone. -/
def plain (c : Command) : Reader (Option Command) := do
  commandEnd
  return some c

/-- The command of a letter, which is taken already; none if nothing is to be done. -/
def command (c : Char) (s : Selection) : Reader (Option Command) := do
  match c with
  | '\x7b' => do
    let r ← get
    let place := r.origin.place 0 r.lines
    set { r with blocks := (r.steps.size, place) :: r.blocks }
    return some (.block 0)
  | '\x7d' => do
    let r ← get
    match r.blocks with
    | [] => fail .closedBlock
    | (start, _) :: blocks => do
      if s.first.isSome then fail .closingAddress
      let close := r.steps.size
      set { r with
        blocks := blocks
        steps := r.steps.modify start fun step => { step with command := .block close } }
      plain .close
  | '#' => do
    if s.first.isSome then fail .commentAddress
    let r ← get
    let line ← takeWhile (· ≠ '\n')
    if r.isFirst && r.used = 1 && line = ['n'] then modify fun r => { r with silent := true }
    discard next
    return none
  | ':' => do
    if s.first.isSome then fail .labelAddress
    let name ← label false
    if name.isEmpty then fail .noLabel
    modify fun r => { r with labels := (name, r.steps.size) :: r.labels }
    return none
  | 'b' => return some (.jump .always (← label true))
  | 't' => return some (.jump .replaced (← label true))
  | 'T' => return some (.jump .unreplaced (← label true))
  | 'v' => do
    if !isKnownVersion (← label true) then fail .newer
    return none
  | 'a' => return some (.append (← commandText))
  | 'i' => return some (.insert (← commandText))
  | 'c' => return some (.change (← commandText))
  | 'q' | 'Q' => do
    if s.extent.isSome then fail .oneAddress
    return some (.quit ((← argument?).getD 0) (c = 'Q'))
  | 'l' => return some (.printEscaped (← argument?))
  | '=' => plain .printNumber
  | 'd' => plain .delete
  | 'D' => plain .deleteFirst
  | 'F' => plain .printName
  | 'g' => plain .fetch
  | 'G' => plain .fetchMore
  | 'h' => plain .keep
  | 'H' => plain .keepMore
  | 'n' => plain .next
  | 'N' => plain .nextMore
  | 'p' => plain .print
  | 'P' => plain .printFirst
  | 'x' => plain .exchange
  | 'z' => plain .clear
  | 'r' => return some (.readFile (← fileName))
  | 'R' => return some (.readLine (← fileName))
  | 'w' => return some (.write (← fileName))
  | 'W' => return some (.writeFirst (← fileName))
  | 's' => return some (.substitute (← substitution))
  | 'y' => return some (.translate (← translation))
  | c => fail (.unknown c)

/-- The commands of a part that is at most so long. -/
def commands : Nat → Reader Unit
  | 0 => pure ()
  | n + 1 => do
    discard (takeWhile fun c => c = ';' || Arith.isSpace c)
    if (← peek).isNone then return
    let s ← selection
    match ← next with
    | none => fail .missing
    | some c => do
      if let some found ← command c s then
        modify fun r => { r with steps := r.steps.push ⟨s, found⟩ }
      commands n

/-- Goes on with the text of the last command. -/
def moreText : Reader Unit := do
  let more ← text false
  modify fun r =>
    let i := r.steps.size - 1
    { r with steps := r.steps.modify i fun step =>
        { step with command := match step.command with
          | .append t => .append (t ++ more)
          | .insert t => .insert (t ++ more)
          | .change t => .change (t ++ more)
          | c => c } }

/-- Reads all parts of a script. -/
def parts : List (Origin × Bytes) → Reader Unit
  | [] => pure ()
  | (origin, cs) :: rest => do
    modify fun r => { r with origin := origin, rest := cs, used := 0, lines := 0 }
    if (← get).hasOpenText then moreText
    commands (cs.length + 1)
    modify fun r => { r with isFirst := false }
    parts rest

/-- The script that parts are. -/
def readAll (extended : Bool) (all : List (Origin × Bytes)) : Except Fault Script := do
  let start : Reading :=
    { origin := .argument 1, rest := [], used := 0, lines := 0, isFirst := true
      extended := extended, steps := #[], labels := [], blocks := [], silent := false
      hasOpenText := false }
  let ((), r) ← (parts all).run start
  match r.blocks with
  | (_, place) :: _ => throw ⟨.openBlock, place⟩
  | [] => return ⟨r.steps, r.labels, r.silent⟩

end ActionTree.Sh.Edit
