import ActionTree.Testing.Sh.Executable.Options
import ActionTree.Testing.Sh.Executable.Streams
import ActionTree.Testing.Sh.Plan

/-!
# Commands made of what is read

`xargs` reads words from its input and starts a command again and again, each time with some of them
behind its own words.

* `Batches.read`: the words of a text.
* `Batches.gather`: the words of each command.
* `Batches.plan`: the commands one after another.
-/

namespace ActionTree.Sh.Batches

/-- How commands are made. -/
structure Recipe where
  /-- The words with which each command starts. -/
  words : List Bytes
  /-- The most words, and lines, that are put behind them. -/
  perCall : Option Nat
  lines : Option Nat
  /-- The text in the first words in whose place a line is put. -/
  replaced : Option Bytes
  /-- The word at which the input ends. -/
  last : Option Bytes
  /-- The character between words, if blanks and quotes have no meaning. -/
  separator : Option Char
  /-- The size that a command may have. -/
  size : Nat
  /-- Is it a failure if that size is reached before the other limits? -/
  strict : Bool
  /-- Is a command started even if nothing is read? -/
  always : Bool
  /-- Are commands shown before they are started? -/
  tells : Bool

/-- The size of words in a command. -/
def sizeOf (words : List Bytes) : Nat := words.foldl (fun n w => n + w.length + 1) 0

/-! ## Reading words -/

/-- What is read: a word, or the end of a line. -/
inductive Item where
  | word (text : Bytes)
  | lineEnd

/-- Where the reader of words is. -/
inductive Mode where
  /-- In front of a word. -/
  | between
  | inside
  | quoted (by_ : Char)
  | escaped

/-- What a reader of words read: the word so far in reverse with its length, and the items in
reverse. -/
structure Reading where
  mode : Mode
  piece : Bytes
  length : Nat
  items : List Item

namespace Reading

/-- The reading with its word completed. -/
def complete (r : Reading) : Reading :=
  ⟨.between, [], 0, .word r.piece.reverse :: r.items⟩

/-- The reading with one more character in its word. -/
def push (r : Reading) (c : Char) : Reading :=
  { r with mode := .inside, piece := c :: r.piece, length := r.length + 1 }

/-- What was read, in order. -/
def done (r : Reading) : List Item := r.items.reverse

end Reading

/-- What is said of a quote without its end. -/
def unmatched (quote : Char) : Bytes :=
  "unmatched ".toList ++ (if quote = '"' then "double".toList else "single".toList)
    ++ " quote; by default quotes are special to xargs unless you use the -0 option".toList

/-- What is said of a word that is too long. -/
def tooLong : Bytes := "argument line too long".toList

/-- Is it a space, or the end of a line or a page? -/
def isSpace (c : Char) : Bool := c = ' ' || ('\t' ≤ c && c ≤ '\r')

/-- Reads words between blanks, in which quotes and backslashes have a meaning, and lines if text is
replaced. The result is what was read, and what is wrong, if anything. -/
def readQuoted (p : Recipe) (most : Nat) : Reading → Bytes → List Item × Option Bytes
  | r, [] =>
    match r.mode with
    | .quoted q => if r.length = 0 then (r.done, none) else (r.done, some (unmatched q))
    | _ =>
      if r.length = 0 || p.last = some r.piece.reverse then (r.done, none)
      else (r.complete.done, none)
  | r, c :: cs =>
    let isBlank := c = ' ' || c = '\t'
    let push (r : Reading) : List Item × Option Bytes :=
      if most ≤ r.length then (r.done, some tooLong) else readQuoted p most (r.push c) cs
    let plain (r : Reading) : List Item × Option Bytes :=
      if c = '\n' || (isBlank && p.replaced.isNone) then
        if p.last = some r.piece.reverse then (r.done, none)
        else
          let r := r.complete
          readQuoted p most
            (if c = '\n' then { r with items := .lineEnd :: r.items } else r) cs
      else if c = '\\' then readQuoted p most { r with mode := .escaped } cs
      else if c = '\x27' || c = '"' then readQuoted p most { r with mode := .quoted c } cs
      else push r
    match r.mode with
    | .between => if isSpace c then readQuoted p most r cs else plain { r with mode := .inside }
    | .inside => plain r
    | .escaped => push r
    | .quoted q =>
      if c = '\n' then (r.done, some (unmatched q))
      else if c = q then readQuoted p most { r with mode := .inside } cs
      else
        if most ≤ r.length then (r.done, some tooLong)
        else readQuoted p most { r.push c with mode := .quoted q } cs

/-- The words of a text, and what is wrong, if anything. -/
def read (p : Recipe) (text : Bytes) : List Item × Option Bytes :=
  let own := if p.replaced.isSome then 0 else sizeOf p.words
  let most := p.size - own - 1
  match p.separator with
  | none => readQuoted p most ⟨.between, [], 0, []⟩ text
  | some c =>
    let words := linesBy c text
    let good := words.takeWhile fun w => w.length ≤ most
    (good.flatMap fun w => [.word w, .lineEnd],
      if good.length < words.length then some tooLong else none)

/-! ## Making commands -/

/-- The commands so far in reverse, and the words that the next one has, in reverse, with their
number, size and lines. -/
structure Gathering where
  calls : List (List Bytes)
  words : List Bytes
  count : Nat
  size : Nat
  lines : Nat

namespace Gathering

/-- The gathering with its command completed. -/
def complete (p : Recipe) (g : Gathering) : Gathering :=
  ⟨(p.words ++ g.words.reverse) :: g.calls, [], 0, sizeOf p.words, 0⟩

end Gathering

/-- The commands that items are put into. -/
def gatherFrom (p : Recipe) (fault : Option Bytes) :
    Gathering → List Item → List (List Bytes) × Option Bytes
  | g, [] =>
    if fault.isSome then (g.calls.reverse, fault)
    else if 0 < g.count || (p.always && g.calls.isEmpty) then ((g.complete p).calls.reverse, none)
    else (g.calls.reverse, none)
  | g, .lineEnd :: rest =>
    let g := { g with lines := g.lines + 1 }
    if p.lines.any (· ≤ g.lines) then gatherFrom p fault (g.complete p) rest
    else gatherFrom p fault g rest
  | g, .word w :: rest =>
    let isFull := p.size < g.size + w.length + 1
    if isFull && g.count = 0 then
      (g.calls.reverse, some "cannot fit single argument within argument list size limit".toList)
    else if isFull && p.strict && (p.lines.isSome || p.perCall.isSome) then
      (g.calls.reverse, some "argument list too long".toList)
    else
      let lines := g.lines
      let g := if isFull then { g.complete p with lines := lines } else g
      let g := { g with
        words := w :: g.words
        count := g.count + 1
        size := g.size + w.length + 1 }
      if p.perCall.any (· ≤ g.count) then
        gatherFrom p fault { g.complete p with lines := lines } rest
      else gatherFrom p fault g rest

/-- A text with another one in the place of each occurrence of a third. -/
def replaceAll (what by_ : Bytes) : Nat → Bytes → Bytes
  | 0, cs => cs
  | n + 1, cs =>
    match cs with
    | [] => []
    | c :: rest =>
      if what.isPrefixOf cs then by_ ++ replaceAll what by_ n (cs.drop what.length)
      else c :: replaceAll what by_ n rest

/-- The words of a command in which a line takes the place of a text; the name stays. -/
def filled (p : Recipe) (what line : Bytes) : List Bytes :=
  p.words.take 1 ++ (p.words.drop 1).map fun w => replaceAll what line (w.length + 1) w

/-- The commands that are made of what was read, and what is wrong, if anything. -/
def gather (p : Recipe) (read : List Item × Option Bytes) : List (List Bytes) × Option Bytes :=
  match p.replaced with
  | none =>
    if p.size < sizeOf p.words then
      ([], some "cannot fit single argument within argument list size limit".toList)
    else gatherFrom p read.2 ⟨[], [], 0, sizeOf p.words, 0⟩ read.1
  | some [] => ([], some "command too long".toList)
  | some what =>
    let lines := read.1.filterMap fun i => match i with
      | .word w => some w
      | .lineEnd => none
    (lines.map (filled p what), read.2)

/-! ## Starting commands -/

/-- What is done with commands one after another, and at the end. A failure of one of them is
remembered. -/
def plan (tells : Bool) (start : List Bytes → Start) (end_ : Bool → Plan) :
    Bool → List (List Bytes) → Plan
  | failed, [] => end_ failed
  | failed, words :: rest =>
    let name := words.headD []
    let run : Plan := .start (start words) fun ending => match ending with
      | .status 0 => plan tells start end_ failed rest
      | .status 255 => .fail (name ++ ": exited with status 255; aborting".toList) 124
      | .status _ | .late => plan tells start end_ true rest
      | .signal n => .fail (name ++ ": terminated by signal ".toList ++ decimal n) 125
      | .missing t => .fail (name ++ ": ".toList ++ t.message) (Plan.statusOf t)
    if tells then .act (Act.putMessage (fed (spaced (words.map shown)))) fun _ => run else run

/-! ## Options -/

/-- A number that an option is given, which must not be too small; if it is, that is a misuse. -/
def number (c : Char) (least : Int) (text : Bytes) : Act Int := do
  let option := " for -".toList ++ c :: " option".toList
  match text with
  | [] => Act.misuse ("invalid number \"\"".toList ++ option)
  | sign :: rest =>
    let digits := if sign = '-' || sign = '+' then rest else text
    if digits.isEmpty || !digits.all Char.isDigit then
      Act.misuse ("invalid number \"".toList ++ text ++ ['"'] ++ option)
    else
      let n : Int := (Arith.digits 10 0 digits).1
      let n := if sign = '-' then -n else n
      if n < least then
        let what := "value ".toList ++ text ++ option ++ " should be >= ".toList
          ++ decimal least.toNat
        if c = 's' then
          Act.warn what
          return least
        else Act.misuse what
      else return n

/-- The character that separates words: itself, or an escape. -/
def separator (text : Bytes) : Act Char := do
  let invalid {α : Type} : Act α := Act.quit (
    "Invalid input delimiter specification ".toList ++ text
      ++ ": the delimiter must be either a single character ".toList
      ++ "or an escape sequence starting with \\.".toList)
  match text with
  | [c] => return c
  | '\\' :: 'x' :: ds =>
    if ds.isEmpty || 2 < ds.length || !ds.all fun c => (Arith.digit? 16 c).isSome then invalid
    else return byteChar (Arith.digits 16 0 ds).1
  | '\\' :: c :: ds =>
    match controlEscape? c with
    | some d => return d
    | none =>
      if isOctal c then
        if 2 < ds.length || !ds.all isOctal then invalid
        else return byteChar (octal 3 0 (c :: ds)).1
      else Act.quit ("Invalid escape sequence ".toList ++ text
        ++ " in input delimiter specification.".toList)
  | _ => invalid

/-- A warning that an option takes the place of another one. -/
def overrides (before after : String) : Act Unit :=
  Act.warn ("warning: options ".toList ++ before.toList ++ " and ".toList ++ after.toList
    ++ " are mutually exclusive, ignoring previous ".toList ++ before.toList ++ " value".toList)

/-- The recipe with one more option. -/
def withOption (p : Recipe) (c : Char) (value : Option Bytes) : Act Recipe := do
  let text := value.getD []
  match c with
  | 'n' => do
    let n := (← number c 1 text).toNat
    if n = 1 && p.replaced.isSome then return { p with perCall := none }
    if p.lines.isSome then overrides "--max-lines" "--max-args/-n"
    if p.replaced.isSome then overrides "--replace" "--max-args/-n"
    return { p with perCall := some n, lines := none, replaced := none }
  | 'L' | 'l' => do
    let n ← if c = 'l' && value.isNone then pure 1 else number c 1 text
    let label := if c = 'L' then "-L" else "--max-lines/-l"
    if p.perCall.isSome then overrides "--max-args" label
    if p.replaced.isSome then overrides "--replace" label
    return { p with lines := some n.toNat, perCall := none, replaced := none }
  | 'I' | 'i' => do
    if p.lines.isSome then overrides "--max-lines" "--replace/-I/-i"
    if p.perCall.isSome then overrides "--max-args" "--replace/-I/-i"
    return { p with replaced := some (value.getD ['\x7b', '\x7d']), lines := none, perCall := none }
  | 'E' | 'e' => return { p with last := value.filter (!·.isEmpty) }
  | '0' => return { p with separator := some '\x00' }
  | 'd' => return { p with separator := some (← separator text) }
  | 's' => return { p with size := min p.size (← number c 1 text).toNat }
  | 'P' => do
    discard (number c 0 text)
    return p
  | 'r' => return { p with always := false }
  | 't' => return { p with tells := true }
  | 'x' => return { p with strict := true }
  | _ => return p

/-- The recipe with options. -/
def withAll : Recipe → List (Char × Option Bytes) → Act Recipe
  | p, [] => return p
  | p, (c, value) :: rest => do withAll (← withOption p c value) rest

/-- The names of the options of `xargs`. -/
def optionNames : List (String × ValueUse × Char) :=
  [("null", .never, '0'), ("arg-file", .always, 'a'), ("delimiter", .always, 'd'),
    ("eof", .attached, 'e'), ("replace", .attached, 'i'), ("max-lines", .attached, 'l'),
    ("max-args", .always, 'n'), ("open-tty", .never, 'o'), ("interactive", .never, 'p'),
    ("no-run-if-empty", .never, 'r'), ("max-chars", .always, 's'), ("verbose", .never, 't'),
    ("show-limits", .never, '\x03'), ("exit", .never, 'x'), ("max-procs", .always, 'P'),
    ("process-slot-var", .always, '\x04')]

/-- Starts commands that are made of what is read. -/
def xargs : Delegate := fun args => do
  let o ← Options.read ⟨"0a:E:e::i::I:l::L:n:prs:txP:d:o", optionNames, false⟩ args
  let words := if o.operands.isEmpty then ["echo".toList] else o.operands
  let p ← withAll ⟨words, none, none, none, none, none, 131072, false, true, false⟩ o.given
  let ignored := p.separator.isSome && p.last.isSome
  if ignored then
    Act.warn (fed "warning: the -E option has no effect if -0 or -d is used.".toList)
  if o.has 'p' then
    Act.putMessage (spaced (words.map shown))
    Act.quit "failed to open /dev/tty for reading: No such device or address".toList
  let scene ← get
  let text ← match o.value? 'a' with
    | none => pure ((← Act.readInput).toOption.getD [])
    | some path => match ← Act.read path with
      | .ok text => pure text
      | .error t =>
        Act.quit ("Cannot open input file ".toList ++ quotedName path ++ ": ".toList ++ t.message)
  let environment := match o.value? '\x04' with
    | some name => scene.environment.filter (·.1 ≠ name) ++ [(name, ['0'])]
    | none => scene.environment
  let (calls, fault) := gather p (read p text)
  let isClosed : Bool := match scene.input with
    | .error _ => (o.value? 'a').isNone
    | .ok _ => false
  let start (words : List Bytes) : Start :=
    ⟨words, environment, scene.directory, if (o.value? 'a').isSome then .shared else .nothing, none⟩
  return plan p.tells start (fun failed =>
    match fault with
    | some what => .fail what 1
    | none =>
      if isClosed then .fail "error closing file: Bad file descriptor".toList 1
      else .finish (if failed then 123 else 0)) false calls

end ActionTree.Sh.Batches
