import ActionTree.Testing.Sh.Executable.Options

/-!
# Starts and ends of files

`head` and `tail` print the start or the end of files, by lines or by bytes.

* `count?`: a number with a unit.
* `Parts.start`, `Parts.finish`: what is wanted of a text.
* `Parts.head`, `Parts.tail`: the programs.
-/

namespace ActionTree.Sh

/-- What is wrong with a number that has a unit. -/
inductive CountFault where
  | invalid
  | tooLarge
  deriving DecidableEq

/-- What is said behind a number with a fault. -/
def CountFault.reason : CountFault → Bytes
  | .invalid => []
  | .tooLarge => ": Value too large for defined data type".toList

/-- The number that a unit stands for: a power of 1024, or of 1000 if a `B` follows. -/
def unit? (cs : Bytes) : Option Nat :=
  let power (base : Nat) (c : Char) : Option Nat :=
    ("KMGTPEZYRQ".toList.idxOf? (if c = 'k' || c = 'm' then c.toUpper else c)).map fun i =>
      Nat.pow base (i + 1)
  match cs with
  | [] => some 1
  | ['b'] => some 512
  | [c] | [c, 'i', 'B'] => power 1024 c
  | [c, 'B'] => power 1000 c
  | _ => none

/-- A whole number, perhaps behind blanks and with a unit. -/
def count? (cs : Bytes) : Except CountFault Nat :=
  let cs := cs.dropWhile Arith.isSpace
  let cs := match cs with
    | '+' :: ds => ds
    | ds => ds
  let ds := cs.takeWhile Char.isDigit
  match ds.isEmpty, unit? (cs.drop ds.length) with
  | false, some unit =>
    let n := Text.number ds * unit
    if n < UInt64.size then .ok n else .error .tooLarge
  | _, _ => .error .invalid

namespace Parts

/-! ## Cutting texts -/

/-- So many lines of a text, in reverse behind what was taken before, and the text behind them. -/
def cutLines (separator : Char) : Nat → Bytes → Bytes → Bytes × Bytes
  | 0, done, rest => (done, rest)
  | _, done, [] => (done, [])
  | n + 1, done, c :: rest =>
    cutLines separator (if c = separator then n else n + 1) (c :: done) rest

/-- So many lines at the start of a text, and the text behind them. -/
def splitLines (separator : Char) (n : Nat) (cs : Bytes) : Bytes × Bytes :=
  let (done, rest) := cutLines separator n [] cs
  (done.reverse, rest)

/-- The number of lines of a text, of which the last one may be unfinished. -/
def lineCount (separator : Char) (cs : Bytes) : Nat :=
  let ends := cs.count separator
  if cs.getLast?.any (· ≠ separator) then ends + 1 else ends

/-- What of a text is wanted. -/
structure Wanted where
  lines : Bool
  amount : Nat
  /-- Is the amount left out instead? -/
  leftOut : Bool
  separator : Char

/-- The start of a text and what is behind it. -/
def start (w : Wanted) (cs : Bytes) : Bytes × Bytes :=
  if w.lines then
    let n := if w.leftOut then lineCount w.separator cs - w.amount else w.amount
    splitLines w.separator n cs
  else
    let n := if w.leftOut then cs.length - w.amount else w.amount
    (cs.take n, cs.drop n)

/-- The end of a text. With an amount left out the text starts there, counted from 1. -/
def finish (w : Wanted) (cs : Bytes) : Bytes :=
  if w.lines then
    let n := if w.leftOut then w.amount - 1 else lineCount w.separator cs - w.amount
    (splitLines w.separator n cs).2
  else cs.drop (if w.leftOut then w.amount - 1 else cs.length - w.amount)

/-! ## The programs -/

/-- What a file is called in messages and titles. -/
def label (arg : Bytes) : Bytes := if arg = ['-'] then "standard input".toList else arg

/-- Writes the title of a file. -/
def title (isFirst : Bool) (arg : Bytes) : Act Unit := do
  Act.put ((if isFirst then [] else ['\n']) ++ "==> ".toList ++ label arg ++ " <==\n".toList)

/-- When titles are written. -/
def hasTitles (o : Options) : Bool :=
  match o.last? "qv" with
  | some 'q' => false
  | some _ => true
  | none => 1 < o.operands.length

/-- Prints a part of each file; an input that is closed fails in a way of its own. -/
def each (o : Options) (closed : String) (part : Bytes → Bytes → Act Unit) : Act Unit := do
  let titled := hasTitles o
  let mut isFirst := true
  for arg in Act.orInput o.operands do
    match ← Act.peek arg with
    | .error .isDirectory => do
      if titled then title isFirst arg
      isFirst := false
      Act.complain ("error reading ".toList ++ quotedName (label arg) ++ ": ".toList
        ++ Trouble.message .isDirectory)
    | .error .badDescriptor => do
      if titled then title isFirst arg
      isFirst := false
      let why := ": ".toList ++ Trouble.message .badDescriptor
      Act.complain (closed.toList ++ ' ' :: quotedName (label arg) ++ why)
      Act.complain (arg ++ why)
    | .error t =>
      Act.complain ("cannot open ".toList ++ quotedName (label arg) ++ " for reading: ".toList
        ++ t.message)
    | .ok text => do
      if titled then title isFirst arg
      isFirst := false
      part arg text

/-- The amount that an option asks for, behind its sign. -/
def amount (lines : Bool) (ds : Bytes) : Act Nat := do
  match count? ds with
  | .ok n => return n
  | .error e =>
    let what := if lines then "lines" else "bytes"
    Act.quit (("invalid number of " ++ what ++ ": ").toList ++ visibly ds ++ e.reason)

/-- The last of the options for lines and bytes, with its value. -/
def lastAmount? (o : Options) : Option (Bool × Bytes) :=
  (o.given.reverse.find? fun g => g.1 = 'n' || g.1 = 'c').map fun g => (g.1 = 'n', g.2.getD [])

/-- Checks all amounts in the order in which they are given. -/
def checkAmounts (o : Options) : Act Unit := do
  for (c, value) in o.given do
    if c = 'n' || c = 'c' then
      let ds := value.getD []
      let ds := if ds.head? = some '-' then ds.tail else ds
      discard (amount (c = 'n') ds)

/-- An argument that is a number with units and other letters, as the options it stands for. -/
def headArgs (args : List Bytes) : Act (List Bytes) := do
  match args with
  | ('-' :: d :: more) :: rest =>
    if !d.isDigit then return args
    let ds := (d :: more).takeWhile Char.isDigit
    let letters := (d :: more).drop ds.length
    let units := letters.filter "bkm".toList.contains
    let others := letters.filter fun c => !"bkm".toList.contains c
    match others.find? fun c => !"clqvz".toList.contains c with
    | some c => Act.misuse ("invalid trailing option -- ".toList ++ [c])
    | none =>
      let unit := units.getLast?.toList
      let inBytes := letters.contains 'c' || units.getLast?.isSome
      let quiet := others.filter "qvz".toList.contains
      let flags := if quiet.isEmpty then [] else ['-' :: quiet]
      return flags ++ [if inBytes then ['-', 'c'] else ['-', 'n'], ds ++ unit] ++ rest
  | args => return args

/-- The names of the options of both programs. -/
def names : List (String × ValueUse × Char) :=
  [("bytes", .always, 'c'), ("lines", .always, 'n'), ("quiet", .never, 'q'),
    ("silent", .never, 'q'), ("verbose", .never, 'v'), ("zero-terminated", .never, 'z')]

/-- Takes what a part leaves of the input, if it can be read from any place on; all of a part of
what comes from elsewhere is taken at once. -/
def takePart (before rest : Bytes) : Act Unit := do
  let s ← get
  let block := 8192
  let used := before.length - rest.length
  if s.inputFile.isSome || s.inputEndless then Act.take used rest
  else
    let taken := (used + block - 1) / block * block
    Act.take (min taken before.length) (before.drop taken)

/-- The start of each file: ten lines, or what the options say. With a minus, all but the end. -/
def head : Executable := fun args => do
  let args ← headArgs args
  let o ← Options.read ⟨"c:n:qvz0123456789", names, true⟩ args
  if let some g := o.given.find? fun g => g.1.isDigit then
    Act.misuse ("invalid trailing option -- ".toList ++ [g.1])
  checkAmounts o
  let (lines, ds) := (lastAmount? o).getD (true, ['1', '0'])
  let (leftOut, ds) : Bool × Bytes := match ds with
    | '-' :: rest => (true, rest)
    | rest => (false, rest)
  let w : Wanted := ⟨lines, ← amount lines ds, leftOut, if o.has 'z' then '\x00' else '\n'⟩
  each o "error reading" fun arg text => do
    let (part, rest) := start w text
    if arg = ['-'] || arg = "/dev/stdin".toList then
      if leftOut && (← get).inputFile.isNone then discard Act.readInput else takePart text rest
    Act.put part

/-- The old way to say how much of the end is wanted, as options. -/
def tailArgs (args : List Bytes) : List Bytes :=
  let isAlone : Bool := match args with
    | [_] => true
    | [_, second] => !("-".toList.isPrefixOf second && 1 < second.length)
    | [_, second, _] | [_, second, _, _] => second = "--".toList
    | _ => false
  match args with
  | (sign :: more) :: rest =>
    let ds := more.takeWhile Char.isDigit
    let letters := more.drop ds.length
    let (units, letters) : Bytes × Bytes := match letters with
      | 'b' :: out => (['b'], out)
      | 'c' :: out => (['c'], out)
      | 'l' :: out => (['l'], out)
      | out => ([], out)
    let follows := letters = ['f']
    let isOld := isAlone && (sign = '+' || sign = '-') && (letters.isEmpty || follows)
      && !(ds.isEmpty && (sign = '+' || units.isEmpty || units = ['c']))
    if !isOld then args
    else
      let amount := sign :: (if ds.isEmpty then ['1', '0'] else ds)
      let option := match units with
        | ['c'] => ["-c".toList, amount]
        | ['b'] => ["-c".toList, amount ++ ['b']]
        | _ => ["-n".toList, amount]
      option ++ (if follows then ["-f".toList] else []) ++ rest
  | args => args

/-- The end of each file: ten lines, or what the options say. With a plus, all but the start. -/
def tail : Executable := fun args => do
  let o ← Options.read ⟨"c:n:fFqs:vz0123456789", names ++
    [("follow", .attached, 'f'), ("retry", .never, 'r'), ("sleep-interval", .always, 's'),
      ("pid", .always, 'p'), ("max-unchanged-stats", .always, 'm')], true⟩ (tailArgs args)
  if let some g := o.given.find? fun g => g.1.isDigit then
    Act.quit ("option used in invalid context -- ".toList ++ [g.1])
  checkAmounts o
  let (lines, ds) := (lastAmount? o).getD (true, ['1', '0'])
  let (leftOut, ds) : Bool × Bytes := match ds with
    | '-' :: rest => (false, rest)
    | '+' :: rest => (true, rest)
    | rest => (false, rest)
  let w : Wanted := ⟨lines, ← amount lines ds, leftOut, if o.has 'z' then '\x00' else '\n'⟩
  each o "cannot fstat" fun arg text => do
    if arg = ['-'] then discard Act.readInput
    Act.put (finish w text)
  if (o.has 'f' || o.has 'F') && o.operands.any (· ≠ ['-']) then
    modify fun s => { s with endless := true }

end Parts

end ActionTree.Sh
