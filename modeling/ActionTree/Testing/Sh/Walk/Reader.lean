import ActionTree.Testing.Sh.Executable.Streams
import ActionTree.Testing.Sh.Expression.Reader
import ActionTree.Testing.Sh.Permission
import ActionTree.Testing.Sh.Walk.Basic

/-!
# Reading searches

The arguments of a search are paths and then words that say what is done: tests, deeds and what
joins them. `,` joins the least tightly, then come `-o`, `-a`, which need not be written, and `!`.

* `Walk.Reader.search`: what arguments ask for.
-/

namespace ActionTree.Sh.Walk.Reader

/-- A word of a search that was understood. -/
inductive Token where
  | clause (c : Clause)
  | not
  | and
  | or
  | comma
  | opening
  | closing

/-- A token with the word that it is. -/
structure Mark where
  token : Token
  word : Bytes

/-- A search as far as it was read. -/
structure Plot where
  manner : Manner
  /-- Was it asked for that what is below comes first? -/
  upwardsAsked : Bool
  /-- Are expressions written in the usual way of searches? -/
  plainExpressions : Bool
  /-- How many programs are started with many files. -/
  kept : Nat
  marks : List Mark

/-- Does an argument start what is done, and not a path? -/
def isWord (leading : Bool) (arg : Bytes) : Bool :=
  match arg with
  | '-' :: _ :: _ | ['('] | ['!'] => true
  | [','] | [')'] => !leading
  | _ => false

/-- A message, and the end. -/
def invalid {α : Type} (what : String) (shown : Bytes) (behind : String) : Act α :=
  Act.quit (what.toList ++ shown ++ behind.toList)

/-! ## Arguments of tests -/

/-- A number with a sign that says how it is compared. -/
def amount? (cs : Bytes) : Option (Comparison × Nat × Bytes) :=
  let (how, text) : Comparison × Bytes := match cs with
    | '+' :: rest => (.more, rest)
    | '-' :: rest => (.less, rest)
    | text => (.equal, text)
  let ds := text.takeWhile Char.isDigit
  if ds.isEmpty then none else some (how, Text.number ds, text.drop ds.length)

/-- A number that a test is given. -/
def amount (name arg : Bytes) : Act (Comparison × Nat) := do
  match amount? arg with
  | some (how, n, []) => return (how, n)
  | _ => invalid "invalid argument \x60" arg ("' to \x60" ++ String.ofList name ++ "'")

/-- A pattern that a test is given. -/
def pattern (ignoresCase : Bool) (arg : Bytes) : Shape :=
  let text := if ignoresCase then arg.map Char.toLower else arg
  .pattern (Pattern.ofMarked (text.map fun c => (false, c)))

/-- An expression as searches write it, in the way in which groups and choices need no backslash. -/
def extended : Nat → Bytes → Bytes
  | 0, _ => []
  | n + 1, cs =>
    match cs with
    | [] => []
    | '\\' :: c :: rest =>
      if "()|".toList.contains c then c :: extended n rest else '\\' :: c :: extended n rest
    | '[' :: rest =>
      let start := match rest with
        | '^' :: ']' :: _ => 2
        | ']' :: _ | '^' :: _ => 1
        | _ => 0
      let inner := rest.take start ++ (rest.drop start).takeWhile (· ≠ ']')
      '[' :: inner ++ extended n (rest.drop inner.length)
    | c :: rest =>
      if ['(', ')', '|', '\x7b', '\x7d'].contains c then '\\' :: c :: extended n rest
      else c :: extended n rest

/-- The expression that a test is given. -/
def expression (plot : Plot) (arg : Bytes) : Act Shape := do
  let text := if plot.plainExpressions then extended (arg.length + 1) arg else arg
  match Expression.read ⟨true, true⟩ text with
  | .ok (e, _) => return .expression e
  | .error fault =>
    Act.quit (
      "failed to compile regular expression '".toList ++ arg ++ "': ".toList ++ fault.message)

/-- The letters of kinds between commas. -/
def kinds (name arg : Bytes) : Act (List Char) := do
  let to_ := " to ".toList ++ name
  if arg.isEmpty then
    Act.quit ("Arguments".toList ++ to_ ++ " should contain at least one letter".toList)
  let parts := splitAt ',' arg
  let mut found : List Char := []
  for (part, i) in parts.zipIdx do
    match part with
    | [c] =>
      if !"bcdpflsD".toList.contains c then
        Act.quit ("Unknown argument".toList ++ to_ ++ [':', ' ', c])
      found := c :: found
    | [] =>
      if i + 1 = parts.length then
        Act.quit ("Last file type in list argument".toList ++ to_
          ++ " is missing, i.e., list is ending on: ','".toList)
      else
        Act.quit ("Unknown argument".toList ++ to_ ++ ": ,".toList)
    | _ =>
      Act.quit ("Must separate multiple arguments".toList ++ to_ ++ " using: ','".toList)
  return found

/-- A size with its unit. -/
def size (arg : Bytes) : Act Test := do
  if arg.isEmpty then Act.quit "invalid null argument to -size".toList
  match amount? arg with
  | none => invalid "invalid -size type \x60" (arg.drop (arg.length - 1)) "'"
  | some (how, n, rest) =>
    let unit? : Option Nat := match rest with
      | [] | ['b'] => some 512
      | ['c'] => some 1
      | ['w'] => some 2
      | ['k'] => some 1024
      | ['M'] => some 1048576
      | ['G'] => some 1073741824
      | _ => none
    match unit? with
    | some unit => return .size how n unit
    | none => invalid "invalid -size type \x60" (arg.drop (arg.length - 1)) "'"

/-- The bits of a mode. -/
def mode (arg : Bytes) : Act Test := do
  let (bits, text) : Bits × Bytes := match arg with
    | '-' :: rest => (.all, rest)
    | '/' :: rest => (.some, rest)
    | text => (.exactly, text)
  match Disk.modeFrom? 0 false 0 text, Disk.modeFrom? 0 true 0 text with
  | some a, some b => return .mode bits a b
  | _, _ => Act.quit ("invalid mode ".toList ++ visibly arg)

/-- The node that an argument names. -/
def node (arg : Bytes) : Act Nat := do
  match ← Act.find arg with
  | .ok n => return n
  | .error t => Act.quit (visibly arg ++ ": ".toList ++ t.message)

/-- The number of a user or a group. -/
def owner (isGroup : Bool) (arg : Bytes) : Act Test := do
  let number? : Option Nat :=
    if isGroup then (Group.all.find? (·.name.toList = arg)).map (·.number)
    else (Account.all.find? (·.name.toList = arg)).map (·.number)
  match number?, amount? arg with
  | some n, _ => return .owner .equal n
  | none, some (.equal, n, []) => return .owner .equal n
  | none, _ => Act.quit (visibly arg ++
      (if isGroup then " is not the name of an existing group".toList
      else " is not the name of a known user".toList))

/-- The pieces of a format. -/
def pieces : Nat → Bytes → Act (List Piece)
  | 0, _ => return []
  | n + 1, cs => do
    let plain (text : Bytes) (rest : Bytes) : Act (List Piece) := do
      return .text text :: (← pieces n rest)
    match cs with
    | [] => return []
    | '%' :: '%' :: rest => plain ['%'] rest
    | ['%'] => Act.quit "error: % at end of format string".toList
    | '%' :: rest =>
      let flags := rest.takeWhile ("-0+ #".toList.contains ·)
      let ds := (rest.drop flags.length).takeWhile Char.isDigit
      match rest.drop (flags.length + ds.length) with
      | [] => Act.quit "error: % at end of format string".toList
      | kind :: after =>
        if "pfhPHsdmMyYlugUGnikb".toList.contains kind then
          return .field (flags.contains '-') (flags.contains '0') (Text.number ds) kind
            :: (← pieces n after)
        else
          let shown := '%' :: rest.take (rest.length - after.length)
          Act.warn ("warning: unrecognized format directive \x60".toList ++ shown ++ ['\x27'])
          plain shown after
    | '\\' :: 'c' :: _ => return []
    | '\\' :: c :: rest =>
      match (if c = 'e' then none else controlEscape? c) with
      | some d => plain [d] rest
      | none =>
        if isOctal c then
          let (code, out) := octal 3 0 (c :: rest)
          plain [byteChar code] out
        else
          Act.warn ("warning: unrecognized escape \x60\\".toList ++ c :: ['\x27'])
          plain ['\\', c] rest
    | c :: rest => plain [c] rest

/-! ## Words -/

/-- The words of a program up to the mark at their end, whether that is for many files, and what is
behind it. -/
def programWords : List Bytes → List Bytes → Option (List Bytes × Bool × List Bytes)
  | _, [] => none
  | done, [';'] :: rest => some (done.reverse, false, rest)
  | done, ['\x7b', '\x7d'] :: ['+'] :: rest =>
    some ((['\x7b', '\x7d'] :: done).reverse, true, rest)
  | done, word :: rest =>
    if word = ['+'] && (done.head?.any fun w => w.length ≠ 2 && hasBraces w) then
      some (done.reverse, true, rest)
    else programWords (word :: done) rest
where
  /-- Are the braces that stand for a path in a word? -/
  hasBraces : Bytes → Bool
    | '\x7b' :: '\x7d' :: _ => true
    | _ :: cs => hasBraces cs
    | [] => false

/-- A program that is started at each site, or with many of them, and what is behind it. -/
def program (plot : Plot) (name : Bytes) (args : List Bytes) : Act (Plot × Deed × List Bytes) := do
  let inPlace := name = "-execdir".toList
  let braces : Bytes := ['\x7b', '\x7d']
  match programWords [] args with
  | none => invalid "missing argument to \x60" name "'"
  | some ([], _, _) => invalid "invalid argument \x60;' to \x60" name "'"
  | some (words, false, rest) => return (plot, .run inPlace words, rest)
  | some (words, true, rest) =>
    if words.getLast? ≠ some braces then
      Act.quit ("In '".toList ++ name ++ " ... ".toList ++ braces ++ " +' the '".toList ++ braces
        ++ "' must appear by itself, but you specified '".toList ++ words.getLastD [] ++ ['\x27'])
    if 1 < words.count braces then
      Act.quit ("Only one instance of ".toList ++ braces ++ " is supported with ".toList ++ name
        ++ " ... +".toList)
    return ({ plot with kept := plot.kept + 1 }, .keep plot.kept words.dropLast, rest)

/-- A test or a deed without an argument. -/
def alone? (name : String) : Option Clause :=
  let true_ : Clause := .test (.always true)
  match name with
  | "-print" => some (.deed (.print ['\n']))
  | "-print0" => some (.deed (.print ['\x00']))
  | "-empty" => some (.test .empty)
  | "-delete" => some (.deed .delete)
  | "-prune" => some (.deed .prune)
  | "-quit" => some (.deed .quit)
  | "-false" | "-nouser" | "-nogroup" => some (.test (.always false))
  | "-executable" => some (.test .startable)
  | "-true" | "-readable" | "-writable" | "-depth" | "-d" | "-xdev" | "-mount" | "-noleaf"
  | "-daystart" | "-follow" | "-warn" | "-nowarn" | "-ignore_readdir_race"
  | "-noignore_readdir_race" => some true_
  | _ => none

/-- A word that joins others. -/
def joint? (name : String) : Option Token :=
  match name with
  | "(" => some .opening
  | ")" => some .closing
  | "!" | "-not" => some .not
  | "-a" | "-and" => some .and
  | "-o" | "-or" => some .or
  | "," => some .comma
  | _ => none

/-- The names of the tests and deeds with an argument. -/
def valuedNames : List String :=
  ["-name", "-iname", "-path", "-wholename", "-ipath", "-iwholename", "-lname", "-ilname", "-regex",
    "-iregex", "-regextype", "-type", "-xtype", "-size", "-newer", "-anewer", "-cnewer", "-perm",
    "-user", "-group", "-uid", "-gid", "-links", "-inum", "-samefile", "-mtime", "-ctime", "-atime",
    "-mmin", "-cmin", "-amin", "-maxdepth", "-mindepth", "-printf", "-exec", "-execdir"]

/-- The depth that an argument names. -/
def depth (name arg : Bytes) : Act Nat := do
  if arg.isEmpty || !arg.all Char.isDigit then
    Act.quit ("Expected a positive decimal integer argument to ".toList ++ name
      ++ ", but got ".toList ++ visibly arg)
  return Text.number arg

/-- A test or a deed with an argument. -/
def valued (plot : Plot) (name arg : Bytes) : Act (Plot × Clause) := do
  let test (t : Test) : Act (Plot × Clause) := return (plot, .test t)
  let manner (m : Manner) : Act (Plot × Clause) :=
    return ({ plot with manner := m }, .test (.always true))
  match String.ofList name with
  | "-name" => test (.name false (pattern false arg))
  | "-iname" => test (.name true (pattern true arg))
  | "-path" | "-wholename" => test (.path false (pattern false arg))
  | "-ipath" | "-iwholename" => test (.path true (pattern true arg))
  | "-lname" => test (.target false (pattern false arg))
  | "-ilname" => test (.target true (pattern true arg))
  | "-regex" => test (.path false (← expression plot arg))
  | "-iregex" => test (.path true (← expression plot arg))
  | "-regextype" => return ({ plot with
      plainExpressions := ["findutils-default", "emacs"].contains (String.ofList arg) },
      .test (.always true))
  | "-type" => test (.kind false (← kinds name arg))
  | "-xtype" => test (.kind true (← kinds name arg))
  | "-size" => test (← size arg)
  | "-perm" => test (← mode arg)
  | "-user" => test (← owner false arg)
  | "-group" => test (← owner true arg)
  | "-uid" | "-gid" => do
    let (how, n) ← amount name arg
    test (.owner how n)
  | "-links" => do
    let (how, n) ← amount name arg
    test (.links how n)
  | "-inum" => do
    let (how, n) ← amount name arg
    test (.index how n)
  | "-samefile" => test (.index .equal (← node arg))
  | "-newer" | "-anewer" | "-cnewer" => test (.newer ((← get).disk.node (← node arg)).time)
  | "-maxdepth" => manner { plot.manner with most := some (← depth name arg) }
  | "-mindepth" => manner { plot.manner with least := ← depth name arg }
  | "-printf" => return (plot, .deed (.format (← pieces (arg.length + 1) arg)))
  | _ => do
    let (how, n) ← amount name arg
    test (.age how n)

/-- Understands so many words. The word before is remembered if it had an argument. -/
def tokens : Nat → Option Bytes → Plot → List Bytes → Act Plot
  | 0, _, plot, _ => return plot
  | n + 1, before, plot, args => do
    match args with
    | [] => return plot
    | name :: rest =>
      let more (plot : Plot) (t : Token) : Plot :=
        { plot with marks := plot.marks ++ [⟨t, name⟩] }
      if !isWord false name then
        Act.warn ("paths must precede expression: \x60".toList ++ name ++ ['\x27'])
        if let some before := before then
          if ((← Act.find name).toOption).isSome then
            Act.warn (
              "possible unquoted pattern after predicate \x60".toList ++ before ++ "'?".toList)
        Act.finish 1
      match joint? (String.ofList name), alone? (String.ofList name) with
      | some t, _ => tokens n none (more plot t) rest
      | none, some c =>
        let plot := match String.ofList name with
          | "-depth" | "-d" => { plot with
              upwardsAsked := true, manner := { plot.manner with upwards := true } }
          | "-delete" => { plot with manner := { plot.manner with upwards := true } }
          | "-follow" => { plot with manner := { plot.manner with following := .always } }
          | _ => plot
        tokens n none (more plot (.clause c)) rest
      | none, none =>
        if !valuedNames.contains (String.ofList name) then
          invalid "unknown predicate \x60" name "'"
        if name = "-exec".toList || name = "-execdir".toList then
          let (plot, deed, rest) ← program plot name rest
          tokens n none (more plot (.clause (.deed deed))) rest
        else match rest with
          | [] => invalid "missing argument to \x60" name "'"
          | arg :: rest => do
            let (plot, c) ← valued plot name arg
            tokens n (some name) (more plot (.clause c)) rest

/-! ## Joining -/

/-- What is wrong with words where a test or a deed should be, given the word before. -/
def missing (before : Option Mark) (marks : List Mark) : Bytes :=
  let invalid := "invalid expression; ".toList
  match before, marks with
  | some b, [] =>
    match b.token with
    | .opening => invalid ++ "expected to find a ')' but didn't see one. ".toList
        ++ "Perhaps you need an extra predicate after '('".toList
    | _ => "expected an expression after '".toList ++ b.word ++ ['\x27']
  | none, [] => invalid
  | before, m :: _ =>
    let behind : Option Token := before.map (·.token)
    match m.token, behind with
    | .closing, some .opening => invalid ++ "empty parentheses are not allowed.".toList
    | .closing, some _ => "expected an expression between '".toList
        ++ ((before.map (·.word)).getD []) ++ "' and ')'".toList
    | .closing, none => "you have too many ')'".toList
    | _, _ => invalid ++ "you have used a binary operator '".toList ++ m.word
        ++ "' with nothing before it.".toList

/-- What comes of joining words: a clause and the words behind it, or what is wrong. -/
abbrev Joined := Except Bytes (Clause × List Mark)

mutual

/-- Clauses joined by commas. -/
def joinedByCommas : Nat → Option Mark → List Mark → Joined
  | 0, before, marks => .error (missing before marks)
  | n + 1, before, marks => do
    let (a, rest) ← joinedByOr n before marks
    match rest with
    | ⟨.comma, word⟩ :: rest => do
      let (b, rest) ← joinedByCommas n (some ⟨.comma, word⟩) rest
      return (.both a b, rest)
    | rest => return (a, rest)

/-- Clauses joined by `-o`. -/
def joinedByOr : Nat → Option Mark → List Mark → Joined
  | 0, before, marks => .error (missing before marks)
  | n + 1, before, marks => do
    let (a, rest) ← joinedByAnd n before marks
    match rest with
    | ⟨.or, word⟩ :: rest => do
      let (b, rest) ← joinedByOr n (some ⟨.or, word⟩) rest
      return (.or a b, rest)
    | rest => return (a, rest)

/-- Clauses joined by `-a`, which may be left out. -/
def joinedByAnd : Nat → Option Mark → List Mark → Joined
  | 0, before, marks => .error (missing before marks)
  | n + 1, before, marks => do
    let (a, rest) ← single n before marks
    match rest with
    | ⟨.and, word⟩ :: rest => do
      let (b, rest) ← joinedByAnd n (some ⟨.and, word⟩) rest
      return (.and a b, rest)
    | ⟨.clause _, _⟩ :: _ | ⟨.not, _⟩ :: _ | ⟨.opening, _⟩ :: _ => do
      let (b, rest) ← joinedByAnd n none rest
      return (.and a b, rest)
    | rest => return (a, rest)

/-- A clause that is not joined. -/
def single : Nat → Option Mark → List Mark → Joined
  | 0, before, marks => .error (missing before marks)
  | n + 1, before, marks =>
    match marks with
    | ⟨.clause c, _⟩ :: rest => .ok (c, rest)
    | ⟨.not, word⟩ :: rest => do
      let (c, rest) ← single n (some ⟨.not, word⟩) rest
      return (.not c, rest)
    | ⟨.opening, word⟩ :: rest => do
      let (c, rest) ← joinedByCommas n (some ⟨.opening, word⟩) rest
      match rest with
      | ⟨.closing, _⟩ :: rest => return (c, rest)
      | _ => throw ("invalid expression; I was expecting to find a ')' somewhere ".toList
          ++ "but did not see one.".toList)
    | marks => .error (missing before marks)

end

/-- Is it a deed that makes printing superfluous? -/
def replacesPrinting : Deed → Bool
  | .prune | .quit => false
  | _ => true

/-- The clause of words. Without a deed the path is printed. -/
def clause (marks : List Mark) : Except Bytes Clause := do
  let print : Clause := .deed (.print ['\n'])
  if marks.isEmpty then return print
  let (c, rest) ← joinedByCommas (8 * marks.length + 8) none marks
  if !rest.isEmpty then throw "you have too many ')'".toList
  return if c.hasDeed replacesPrinting then c else .and c print

/-- What is asked for: where to search, how, and what is done at each site. -/
structure Search where
  roots : List Bytes
  manner : Manner
  clause : Clause

/-- The options in front of the paths, and what is behind them. -/
def options : Following → List Bytes → Following × List Bytes
  | f, [] => (f, [])
  | f, arg :: rest =>
    match String.ofList arg with
    | "-H" => options .atStart rest
    | "-L" => options .always rest
    | "-P" => options .never rest
    | "--" => (f, rest)
    | _ => if "-O".toList.isPrefixOf arg then options f rest else (f, arg :: rest)

/-- What arguments ask for. -/
def search (args : List Bytes) : Act Search := do
  let (following, args) := options .never args
  let roots := args.takeWhile fun a => !isWord true a
  let words := args.drop roots.length
  let plot ← tokens (words.length + 1) none ⟨⟨following, 0, none, false⟩, false, true, 0, []⟩ words
  match clause plot.marks with
  | .error what => Act.quit what
  | .ok c =>
    let prunes := c.hasDeed fun d => match d with
      | .prune => true
      | _ => false
    let deletes := c.hasDeed fun d => match d with
      | .delete => true
      | _ => false
    if prunes && deletes && !plot.upwardsAsked then
      Act.quit ("The -delete action automatically turns on -depth, but -prune does nothing ".toList
        ++ "when -depth is in effect.  If you want to carry on anyway, ".toList
        ++ "just explicitly use the -depth option.".toList)
    return ⟨if roots.isEmpty then [['.']] else roots, plot.manner, c⟩

end ActionTree.Sh.Walk.Reader
