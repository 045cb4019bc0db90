import ActionTree.Testing.Sh.Executable.Options
import ActionTree.Testing.Sh.Expression.Reader

/-!
# Finding lines

`grep` prints the lines of files in which an expression fits.

* `Matches.Query`: what is looked for.
* `Matches.grep`: the program.
-/

namespace ActionTree.Sh.Matches

/-- What is looked for in a line. -/
structure Query where
  expressions : List Expression
  ignoresCase : Bool
  /-- Does only a fit of whole words or of a whole line count? -/
  words : Bool
  wholeLines : Bool

namespace Query

/-- Does a fit from a place on count? -/
def counts (q : Query) (s : Subject) (start : Nat) (f : Fit) : Bool :=
  if q.wholeLines then start = 0 && f.place = s.chars.size
  else if q.words then !s.wordBefore start && !s.wordAfter f.place
  else true

/-- The first and longest fit from a place on: its start and its end. -/
def next? (q : Query) (s : Subject) (start : Nat) : Option (Nat × Nat) :=
  q.expressions.foldl (fun best e =>
    let n := match best with
      | some (i, _) => i + 1 - start
      | none => s.chars.size + 1 - start
    match e.searchIn s (q.counts s) n start, best with
    | some (i, f), some (j, k) =>
      if i < j || (i = j && k < f.place) then some (i, f.place) else best
    | some (i, f), none => some (i, f.place)
    | none, best => best) none

/-- A line as it is looked at. -/
def subject (q : Query) (line : Bytes) : Subject := ⟨line.toArray, q.ignoresCase, false⟩

/-- Is what is looked for in a line? -/
def isIn (q : Query) (line : Bytes) : Bool := (q.next? (q.subject line) 0).isSome

/-- The fits in a line from a place on that are not empty. At most so many steps are made. -/
def all (q : Query) (s : Subject) : Nat → Nat → List (Nat × Nat)
  | 0, _ => []
  | n + 1, start =>
    match q.next? s start with
    | none => []
    | some (i, j) => if i < j then (i, j) :: all q s n j else all q s n (i + 1)

end Query

/-- How lines are shown. -/
structure Display where
  inverted : Bool
  /-- Are only the parts that fit shown? -/
  onlyParts : Bool
  numbered : Bool
  offsets : Bool
  /-- Do numbers and lines stand in columns? -/
  aligned : Bool
  named : Bool
  nullNames : Bool
  before : Nat
  after : Nat
  divider : Option Bytes
  most : Option Nat
  feed : Char

/-- A line with its number and where it starts. -/
structure Row where
  text : Bytes
  number : Nat
  offset : Nat

/-- The lines of a text as rows. -/
def rowsOf (feed : Char) (cs : Bytes) : List Row :=
  ((linesBy feed cs).foldl (fun (acc : List Row × Nat × Nat) l =>
    (⟨l, acc.2.1, acc.2.2⟩ :: acc.1, acc.2.1 + 1, acc.2.2 + l.length + 1)) ([], 1, 0)).1.reverse

/-- How wide numbers in columns are. -/
def columnWidth : Nat := 19

/-- What stands in front of a line, with a mark for lines that fit or for those around them. -/
def label (d : Display) (name : Bytes) (mark : Char) (number offset : Nat) : Bytes :=
  let count (n : Nat) : Bytes :=
    let ds := decimal n
    (if d.aligned then pad false columnWidth ds else ds) ++ [mark]
  let text := (if d.named then name ++ [if d.nullNames then '\x00' else mark] else [])
    ++ (if d.numbered then count number else []) ++ (if d.offsets then count offset else [])
  if d.aligned && !text.isEmpty then text ++ ['\t'] else text

/-- What is shown up to now in reverse, the lines that were not shown, the latest first, how many
lines behind the last one that fits are still to be shown, the number of the last line shown, and
how many fit. -/
structure Progress where
  reversed : Bytes
  skipped : List Row
  due : Nat
  last : Option Nat
  count : Nat

/-- Shows a line that fits, or the parts of it. -/
def showHit (q : Query) (d : Display) (name : Bytes) (r : Row) : Bytes :=
  if d.onlyParts then
    if d.inverted then []
    else
      (q.all (q.subject r.text) (r.text.length + 1) 0).flatMap fun (i, j) =>
        label d name ':' r.number (r.offset + i) ++ (r.text.drop i).take (j - i) ++ [d.feed]
  else label d name ':' r.number r.offset ++ r.text ++ [d.feed]

/-- Goes on with a line. -/
def step (q : Query) (d : Display) (name : Bytes) (p : Progress) (r : Row) : Progress :=
  let around (r : Row) : Bytes :=
    if d.onlyParts then [] else label d name '-' r.number r.offset ++ r.text ++ [d.feed]
  if d.most.any (· ≤ p.count) then
    if 0 < p.due then
      { p with
        reversed := (around r).reverseAux p.reversed, due := p.due - 1, last := some r.number }
    else p
  else if q.isIn r.text != d.inverted then
    let before := (p.skipped.take d.before).reverse
    let first := (before.head?.getD r).number
    let hasGap := p.last.any (· + 1 < first) && (0 < d.before || 0 < d.after || d.divider.isSome)
    let divider : Bytes := match d.divider, hasGap with
      | some text, true => fed text
      | _, _ => []
    let out := divider ++ before.flatMap around ++ showHit q d name r
    ⟨out.reverseAux p.reversed, [], d.after, some r.number, p.count + 1⟩
  else if 0 < p.due then
    { p with reversed := (around r).reverseAux p.reversed, due := p.due - 1, last := some r.number }
  else { p with skipped := r :: p.skipped.take d.before }

/-- The names of the options of `grep`. -/
def names : List (String × ValueUse × Char) :=
  [("basic-regexp", .never, 'G'), ("extended-regexp", .never, 'E'),
    ("fixed-regexp", .never, 'F'), ("fixed-strings", .never, 'F'), ("perl-regexp", .never, 'P'),
    ("after-context", .always, 'A'), ("before-context", .always, 'B'),
    ("binary-files", .always, '\x10'), ("binary", .never, 'U'), ("byte-offset", .never, 'b'),
    ("context", .always, 'C'), ("color", .attached, '\x11'), ("colour", .attached, '\x11'),
    ("count", .never, 'c'), ("devices", .always, 'D'), ("directories", .always, 'd'),
    ("exclude", .always, '\x12'), ("exclude-from", .always, '\x13'),
    ("exclude-dir", .always, '\x14'), ("file", .always, 'f'), ("files-with-matches", .never, 'l'),
    ("files-without-match", .never, 'L'), ("group-separator", .always, '\x15'),
    ("ignore-case", .never, 'i'), ("no-ignore-case", .never, '\x16'),
    ("include", .always, '\x17'), ("initial-tab", .never, 'T'), ("label", .always, '\x18'),
    ("line-buffered", .never, '\x19'), ("line-number", .never, 'n'), ("line-regexp", .never, 'x'),
    ("max-count", .always, 'm'), ("no-filename", .never, 'h'),
    ("no-group-separator", .never, '\x1a'), ("no-messages", .never, 's'),
    ("null", .never, 'Z'), ("null-data", .never, 'z'), ("only-matching", .never, 'o'),
    ("quiet", .never, 'q'), ("recursive", .never, 'r'), ("dereference-recursive", .never, 'R'),
    ("regexp", .always, 'e'), ("invert-match", .never, 'v'), ("silent", .never, 'q'),
    ("text", .never, 'a'), ("with-filename", .never, 'H'), ("word-regexp", .never, 'w')]

/-- What is said of the right use of `grep`. -/
def usage : Bytes := "Usage: grep [OPTION]... PATTERNS [FILE]...\n".toList

/-- The arguments with options that are numbers written out. -/
def spelledOut : List Bytes → List Bytes
  | [] => []
  | arg :: rest =>
    let isNumber : Bool := match arg with
      | '-' :: c :: cs => (c :: cs).all Char.isDigit
      | _ => false
    let takesNext : Bool := match arg with
      | '-' :: c :: cs => c ≠ '-' && ((c :: cs).getLast?.any "ABCDdefm".toList.contains)
      | _ => false
    if arg = "--".toList then arg :: rest
    else match takesNext, rest with
      | true, value :: more => arg :: value :: spelledOut more
      | _, rest => (if isNumber then '-' :: 'C' :: arg.tail else arg) :: spelledOut rest

/-- An expression with classes of characters behind backslashes, written with brackets, in a text
that is at most so long. -/
def withoutClasses (inBrackets : Bool) : Nat → Bytes → Bytes
  | 0, cs => cs
  | n + 1, cs =>
    let put (plain bracketed : String) (rest : Bytes) : Bytes :=
      (if inBrackets then bracketed else plain).toList ++ withoutClasses inBrackets n rest
    match cs with
    | '\\' :: 'd' :: rest => put "[0-9]" "0-9" rest
    | '\\' :: 'D' :: rest => put "[^0-9]" "" rest
    | '\\' :: 't' :: rest => put "\t" "\t" rest
    | '\\' :: 'w' :: rest => put "\\w" "A-Za-z0-9_" rest
    | '\\' :: 's' :: rest => put "\\s" " \t-\r" rest
    | '\\' :: c :: rest =>
      (if inBrackets then [c] else ['\\', c]) ++ withoutClasses inBrackets n rest
    | '(' :: '?' :: ':' :: rest => '(' :: withoutClasses inBrackets n rest
    | '[' :: rest => '[' :: withoutClasses true n rest
    | ']' :: rest => ']' :: withoutClasses false n rest
    | c :: rest => c :: withoutClasses inBrackets n rest
    | [] => []

/-- The expression of a line of patterns. -/
def expressionOf (o : Options) (text : Bytes) : Act Expression := do
  match o.last? "EFGP" with
  | some 'F' => return .ofText text
  | kind =>
    let extended : Bool := kind = some 'E' || kind = some 'P'
    let isClass : Bool := match text with
      | '[' :: ':' :: rest => (rest.reverse.take 2) = [']', ':']
      | _ => false
    if isClass then Act.quit "character class syntax is [[:space:]], not [:space:]".toList
    if kind = some 'E' then
      if let some c := text.head?.filter ['*', '+', '?'].contains then
        Act.warn ("warning: ".toList ++ c :: " at start of expression".toList)
    let text := if kind = some 'P' then withoutClasses false text.length text else text
    match Expression.read ⟨extended, true⟩ text with
    | .ok (e, _) => return e
    | .error e => Act.quit e.message

/-- All lines of patterns, and the operands that are files. -/
def patterns (o : Options) : Act (List Bytes × List Bytes) := do
  if !o.has 'e' && !o.has 'f' then
    match o.operands with
    | [] => Act.refer
    | text :: files => return (splitAt '\n' text, files)
  else
    let mut all := (o.values 'e').flatMap (splitAt '\n')
    for path in o.values 'f' do
      match ← Act.read path with
      | .ok text => all := all ++ linesOf text
      | .error t => Act.quit (path ++ ": ".toList ++ t.message)
    return (all, o.operands)

/-- The files below a directory with their paths, and whether they are below one. -/
def filesBelow (d : Disk) : Nat → Nat → Bytes → List Bytes
  | 0, _, _ => []
  | n + 1, k, path =>
    match d.entries? k with
    | none => [path]
    | some _ => (d.sortedEntries k).flatMap fun e =>
      match d.kind e.2 with
      | .link _ => []
      | _ => filesBelow d n e.2 (Path.under path e.1)

/-- The files that are looked at: in place of directories, if it is told to, those below them. -/
def files (o : Options) (operands : List Bytes) : Act (List Bytes) := do
  let s ← get
  if !(o.has 'r' || o.has 'R') then return Act.orInput operands
  else
    let fits (option : Char) (path : Bytes) : Bool :=
      (o.values option).any fun p =>
        (Pattern.ofMarked (p.map (false, ·))).accepts (Path.last path)
    let isWanted (path : Bytes) : Bool :=
      (!o.has '\x17' || fits '\x17' path) && !fits '\x12' path
    if operands.isEmpty then
      let found := match s.disk.find s.directory ['.'] with
        | .ok k => filesBelow s.disk 64 k ['.']
        | .error _ => []
      return (found.map (·.drop 2)).filter isWanted
    else
      return operands.flatMap fun path =>
        match s.disk.find s.directory path with
        | .ok k => if (s.disk.entries? k).isSome then (filesBelow s.disk 64 k path).filter isWanted
          else [path]
        | .error _ => [path]

/-- The value of an option that is a number of lines around others. -/
def context (o : Options) (letters : String) : Act Nat := do
  match (o.given.reverse.find? fun g => letters.toList.contains g.1).bind (·.2) with
  | none => return 0
  | some text => match Text.natural? UInt64.size text with
    | some n => return n
    | none => Act.quit (text ++ ": invalid context length argument".toList)

/-- What is done with each file. -/
structure Wish where
  query : Query
  display : Display
  /-- Are only names of files printed: of those with fits (`l`), or of the others (`L`)? -/
  listing : Option Char
  quiet : Bool
  counting : Bool
  /-- Do null characters stand behind names? -/
  nullNames : Bool
  /-- Is nothing said of files that cannot be read? -/
  tolerant : Bool
  /-- Is a text with null characters printed like any other? -/
  asText : Bool
  label : Bytes

namespace Wish

/-- Are no lines printed? -/
def hidesLines (w : Wish) : Bool := w.quiet || w.listing.isSome || w.counting

/-- Takes as much of the input as was read: up to the last line shown if the number of lines is
bounded, and otherwise all of it. -/
def takeInput (most : Option Nat) (rows : List Row) (p : Progress) (text : Bytes) : Act Unit := do
  let s ← get
  let last := (rows.find? fun r => p.last = some r.number).map fun r => r.offset + r.text.length + 1
  match most.any (· ≤ p.count) && (s.inputFile.isSome || s.inputEndless), last with
  | true, some n => Act.take (min n text.length) (text.drop n)
  | _, _ => discard Act.readInput

/-- Looks at a file: does anything fit, and did it fail? -/
def lookAt (w : Wish) (path : Bytes) : Act (Bool × Bool) := do
  let s ← get
  let isInput : Bool := path = ['-']
  let name := if isInput then w.label else path
  let node := if isInput then s.inputFile else (s.disk.find s.directory path).toOption
  let isOutput : Bool := node.isSome && node = s.outputFile
  match ← Act.peek path, isOutput && !w.hidesLines with
  | .error t, _ => do
    if !w.tolerant then Act.warn (name ++ ": ".toList ++ t.message)
    return (false, true)
  | .ok _, true => do
    Act.warn (name ++ ": input file is also the output".toList)
    return (false, true)
  | .ok text, false => do
    let isBinary := text.contains '\x00' && !w.asText && w.display.feed = '\n'
    let rows := rowsOf w.display.feed text
    let d := w.display
    let short := if w.hidesLines && !w.counting then some (min 1 (d.most.getD 1)) else d.most
    let shown := { d with onlyParts := d.onlyParts && !w.hidesLines, most := short }
    let p := rows.foldl (step w.query shown name) ⟨[], [], 0, none, 0⟩
    if isInput then takeInput (if s.inputEndless then short else d.most) rows p text
    let hits := 0 < p.count
    let mark (usual : Char) : Char := if w.nullNames then '\x00' else usual
    if w.quiet then pure ()
    else if let some c := w.listing then
      if hits = decide (c = 'l') then Act.put (name ++ [mark '\n'])
    else if w.counting then
      Act.put ((if d.named then name ++ [mark ':'] else []) ++ fed (decimal p.count))
    else if isBinary then
      if hits then Act.warn (name ++ ": binary file matches".toList)
    else Act.put p.reversed.reverse
    return (hits, false)

end Wish

/-- How lines are shown; names of files stand in front of them only if an option says so. -/
def displayOf (o : Options) : Act Display := do
  let after ← context o "AC"
  let before ← context o "BC"
  let most ← match o.value? 'm' with
    | none => pure none
    | some text => match Arith.decimal? text with
      | some v => pure (if v < 0 then none else some v.toNat)
      | none => Act.quit "invalid max count".toList
  let divider : Option Bytes := match o.last? "ABC", o.last? "\x15\x1a" with
    | none, _ | _, some '\x1a' => none
    | some _, some _ => o.value? '\x15'
    | some _, none => some "--".toList
  return {
    inverted := o.has 'v', onlyParts := o.has 'o', numbered := o.has 'n', offsets := o.has 'b'
    aligned := o.has 'T'
    named := o.last? "Hh" = some 'H', nullNames := o.has 'Z'
    before := before, after := after, divider := divider
    most := most, feed := if o.has 'z' then '\x00' else '\n' }

/-- The lines of files in which an expression of a kind fits. -/
def grepAs (kind : Option Char) : Executable := fun args => do
  Act.setFailing 2
  modify fun s => { s with usage := usage }
  let o ← Options.read ⟨"A:B:C:D:EFGHILPRUVX:Zabcd:e:f:hilm:noqrsuvwxyzT", names, true⟩
    (spelledOut args)
  let o := match kind with
    | some c => { o with given := (c, none) :: o.given }
    | none => o
  if o.has 'V' then Act.finish 0
  if 1 < ("EFGP".toList.filter o.has).length then Act.quit "conflicting matchers specified".toList
  let unnamed ← displayOf o
  let (texts, operands) ← patterns o
  let expressions ← texts.mapM (expressionOf o)
  let paths ← files o operands
  let below := (o.has 'r' || o.has 'R') && (operands.isEmpty || paths ≠ operands)
  let display := if (o.last? "Hh").isSome then unnamed
    else { unnamed with named := 1 < operands.length || below }
  let ignoring := (o.last? "iy\x16").any (· ≠ '\x16')
  let wish : Wish :=
    { query := ⟨expressions, ignoring, o.has 'w', o.has 'x'⟩
      display := display, listing := o.last? "lL", quiet := o.has 'q', counting := o.has 'c'
      nullNames := o.has 'Z', tolerant := o.has 's', asText := o.has 'a'
      label := (o.value? '\x18').getD "(standard input)".toList }
  let mut found := false
  let mut failed := false
  for path in paths do
    let (hits, fails) ← wish.lookAt path
    found := found || hits
    failed := failed || fails
  Act.finish (if o.has 'q' && found then 0 else if failed then 2 else if found then 0 else 1)

/-- The lines of files in which an expression fits. -/
def grep : Executable := grepAs none

end ActionTree.Sh.Matches
