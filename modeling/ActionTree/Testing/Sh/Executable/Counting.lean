import ActionTree.Testing.Sh.Executable.Options
import ActionTree.Testing.Sh.Expression.Reader

/-!
# Counting

`wc` counts the lines, words and bytes of files; `nl` numbers lines.

* `Counting.Counts.of`: all that is counted in a text.
-/

namespace ActionTree.Sh.Counting

/-- What is counted in a text. -/
structure Counts where
  lines : Nat
  words : Nat
  bytes : Nat
  /-- The width of the longest line. -/
  width : Nat

namespace Counts

/-- The counts of no text. -/
def zero : Counts := ⟨0, 0, 0, 0⟩

/-- The counts of two texts together. -/
def add (a b : Counts) : Counts :=
  ⟨a.lines + b.lines, a.words + b.words, a.bytes + b.bytes, max a.width b.width⟩

/-- The counts up to now, the width of the line up to here, and whether there is a word. -/
structure Progress where
  counts : Counts
  column : Nat
  inWord : Bool

/-- One more character. What cannot be printed neither starts nor ends a word. -/
def step (p : Progress) (c : Char) : Progress :=
  let counts := { p.counts with bytes := p.counts.bytes + 1 }
  let closed : Counts := { counts with width := max counts.width p.column }
  match c with
  | '\n' => ⟨{ closed with lines := closed.lines + 1 }, 0, false⟩
  | '\r' | '\x0c' => ⟨closed, 0, false⟩
  | '\t' => ⟨counts, p.column + 8 - p.column % 8, false⟩
  | ' ' => ⟨counts, p.column + 1, false⟩
  | '\x0b' => ⟨counts, p.column, false⟩
  | c =>
    if isPrintable c then
      let words := if p.inWord then counts.words else counts.words + 1
      ⟨{ counts with words := words }, p.column + 1, true⟩
    else ⟨counts, p.column, p.inWord⟩

/-- All that is counted in a text. -/
def of (cs : Bytes) : Counts :=
  let p := cs.foldl step ⟨zero, 0, false⟩
  { p.counts with width := max p.counts.width p.column }

/-- The counts that options ask for. -/
def wanted (o : Options) (c : Counts) : List Nat :=
  let usual := (o.last? "lwmcL").isNone
  (if usual || o.has 'l' then [c.lines] else []) ++ (if usual || o.has 'w' then [c.words] else [])
    ++ (if o.has 'm' then [c.bytes] else []) ++ (if usual || o.has 'c' then [c.bytes] else [])
    ++ (if o.has 'L' then [c.width] else [])

end Counts

/-- How wide numbers are written: as wide as the size of all files, unless some of them have no size
that is known before. -/
def width (o : Options) (s : Scene) : Nat :=
  let sizeOf (arg : Bytes) : Option (Option Nat) :=
    let node := if arg = ['-'] then (match s.input with
        | .error _ => none
        | .ok _ => some s.inputFile)
      else (s.disk.find s.directory arg).toOption.map some
    node.map fun n => n.bind fun n => match s.disk.kind n with
      | .file c => some c.size
      | _ => none
  let files := Act.orInput o.operands
  let single := files.length = 1 && (Counts.wanted o .zero).length = 1
  if single then 1
  else match files.head?.bind sizeOf with
    | none => 1
    | some _ =>
      let sizes := files.filterMap sizeOf
      let total := (sizes.filterMap id).foldl (· + ·) 0
      let digits := (Nat.toDigits 10 total).length
      if sizes.contains none then max 7 digits else digits

/-- The counts of each file, and of all together if there are several. -/
def wc : Executable := withOptions "clLmw"
  [("bytes", .never, 'c'), ("chars", .never, 'm'), ("lines", .never, 'l'), ("words", .never, 'w'),
    ("max-line-length", .never, 'L'), ("total", .always, 't')] fun o => do
  let total := (o.value? 't').getD "auto".toList
  if !(["auto", "always", "only", "never"].contains (String.ofList total)) then
    Act.warn ("invalid argument ".toList ++ visibly total ++ " for '--total'".toList)
    Act.putMessage ("Valid arguments are:\n".toList
      ++ ["auto", "always", "only", "never"].flatMap fun w => ("  - '" ++ w ++ "'\n").toList)
    Act.refer
  let scene ← get
  let width := if total = "only".toList then 1 else width o scene
  let row (c : Counts) (name : Bytes) : Bytes :=
    let numbers := spaced ((c.wanted o).map fun (n : Nat) => pad false width (decimal n))
    fed (if name.isEmpty then numbers else numbers ++ ' ' :: name)
  let mut sum := Counts.zero
  for arg in Act.orInput o.operands do
    let show_ (c : Counts) : Act Unit := do
      if total ≠ "only".toList then Act.put (row c (if o.operands.isEmpty then []
        else if arg.contains '\n' then quotedName arg else arg))
    if arg.isEmpty then Act.complain "invalid zero-length file name".toList
    else match ← Act.read arg with
      | .ok text => do
        let c := Counts.of text
        sum := sum.add c
        show_ c
      | .error .isDirectory => do
        Act.complain (Act.unreadable arg .isDirectory)
        show_ .zero
      | .error .badDescriptor => do
        Act.complain ("'standard input': ".toList ++ Trouble.message .badDescriptor)
        show_ .zero
        Act.complain ("-: ".toList ++ Trouble.message .badDescriptor)
      | .error t => Act.complain (Act.unreadable arg t)
  let several := 1 < o.operands.length
  if total = "only".toList then Act.put (row sum [])
  else if total = "always".toList || (total = "auto".toList && several) then
    Act.put (row sum "total".toList)

/-! ## Numbering -/

/-- Which lines of a part of a page are numbered. -/
inductive Style where
  | all
  | filled
  | none
  /-- Those that an expression fits. -/
  | fitting (e : Expression)

/-- The style of a letter. -/
def Style.of? : Bytes → Except ExpressionFault (Option Style)
  | ['a'] => .ok (some .all)
  | ['t'] => .ok (some .filled)
  | ['n'] => .ok (some .none)
  | 'p' :: text => (Expression.read ⟨false, false⟩ text).map fun (e, _) => some (.fitting e)
  | _ => .ok Option.none

/-- Is a line numbered that is the last of so many empty ones? So many of them count as one. -/
def Style.counts (blanks joined : Nat) (line : Bytes) : Style → Bool
  | .none => false
  | .filled => !line.isEmpty
  | .all => !line.isEmpty || blanks % joined = 0
  | .fitting e => (e.search ⟨line.toArray, false, false⟩ 0).isSome

/-- A number in a column: at the left, or at the right with blanks or zeros. -/
def numbered (format : Bytes) (width : Nat) (n : Int) : Bytes :=
  let text := decimal n
  match format with
  | ['l', 'n'] => pad true width text
  | ['r', 'z'] =>
    let ds := decimal n.natAbs
    let sign : Bytes := if n < 0 then ['-'] else []
    sign ++ List.replicate (width - sign.length - ds.length) '0' ++ ds
  | _ => pad false width text

/-- The value of an option that is a whole number from 1 on. -/
def size (o : Options) (c : Char) (usual : Nat) (what : String) : Act Nat := do
  match o.value? c with
  | none => return usual
  | some text => match Text.natural? countBound text with
    | some (n + 1) => return n + 1
    | some 0 =>
      Act.quit (what.toList ++ ": ".toList ++ visibly text
        ++ ": Numerical result out of range".toList)
    | none => Act.quit (what.toList ++ ": ".toList ++ visibly text)

/-- The lines of files with numbers. Lines of some backslashes and colons divide pages into heads,
bodies and feet. -/
def nl : Executable := withOptions "b:d:f:h:i:l:n:ps:v:w:"
  [("body-numbering", .always, 'b'), ("section-delimiter", .always, 'd'),
    ("footer-numbering", .always, 'f'), ("header-numbering", .always, 'h'),
    ("line-increment", .always, 'i'), ("join-blank-lines", .always, 'l'),
    ("number-format", .always, 'n'), ("no-renumber", .never, 'p'),
    ("number-separator", .always, 's'), ("starting-line-number", .always, 'v'),
    ("number-width", .always, 'w')] fun o => do
  let style (c : Char) (what : String) (usual : Style) : Act Style := do
    match o.value? c with
    | none => return usual
    | some text => match Style.of? text with
      | .ok (some s) => return s
      | .error e => Act.quit e.message
      | .ok none => do
        Act.warn (("invalid " ++ what ++ " numbering style: ").toList ++ visibly text)
        Act.refer
  let body ← style 'b' "body" .filled
  let foot ← style 'f' "footer" .none
  let head ← style 'h' "header" .none
  let width ← size o 'w' 6 "invalid line number field width"
  let joined ← size o 'l' 1 "invalid line number of blank lines"
  let whole (c : Char) (usual : Int) (what : String) : Act Int := do
    match o.value? c with
    | none => return usual
    | some text => match Arith.decimal? text with
      | some v => return v
      | none => Act.quit ((what ++ ": ").toList ++ visibly text)
  let first ← whole 'v' 1 "invalid starting line number"
  let step ← whole 'i' 1 "invalid line number increment"
  let format := (o.value? 'n').getD "rn".toList
  if !(["ln", "rn", "rz"].contains (String.ofList format)) then
    Act.warn ("invalid line numbering format: ".toList ++ visibly format)
    Act.refer
  let separator := (o.value? 's').getD ['\t']
  let mark := match o.value? 'd' with
    | none => ['\\', ':']
    | some [c] => [c, ':']
    | some cs => cs
  let mut number := first
  let mut current := body
  let mut blanks := 0
  let files ← Act.readAll Act.unreadable o.operands
  for line in linesOf (files.flatMap (·.2)) do
    let section_ := if mark.isEmpty then none
      else if line = mark ++ mark ++ mark then some head
      else if line = mark ++ mark then some body
      else if line = mark then some foot
      else none
    match section_ with
    | some s => do
      current := s
      if !o.has 'p' then number := first
      blanks := 0
      Act.put ['\n']
    | none => do
      blanks := if line.isEmpty then blanks + 1 else 0
      if current.counts blanks joined line then
        Act.put (numbered format width number ++ separator ++ fed line)
        number := number + step
      else Act.put (List.replicate (width + separator.length) ' ' ++ fed line)

end ActionTree.Sh.Counting
