import ActionTree.Testing.Sh.Executable.Options

/-!
# Programs on streams

Programs that print what they read or something of their own: `cat`, `tee`, `yes`, `echo`, and
`sleep`, which only waits.
-/

namespace ActionTree.Sh.Streams

/-! ## Showing what is read -/

/-- How `cat` shows what it reads. -/
structure Display where
  /-- Are lines numbered, and empty ones too? -/
  numbered : Bool
  onlyFilled : Bool
  /-- Do several empty lines count once? -/
  squeezed : Bool
  ends : Bool
  tabs : Bool
  controls : Bool

/-- What was shown up to now: the text in reverse, the number of lines that have one, and the number
of line feeds in a row, unless something is on the line. -/
structure Shown where
  reversed : Bytes
  count : Nat
  feeds : Option Nat

namespace Display

/-- A character as it is shown. -/
def text (d : Display) (c : Char) : Bytes :=
  let low (n : Nat) : Bytes :=
    if n < 32 then ['^', Char.ofNat (n + 64)] else if n = 127 then ['^', '?'] else [Char.ofNat n]
  if c = '\t' then (if d.tabs then ['^', 'I'] else [c])
  else if !d.controls then [c]
  else if c.toNat < 128 then low c.toNat
  else 'M' :: '-' :: low (c.toNat - 128)

/-- The number of the next line in front of it. -/
def number (s : Shown) : Shown :=
  let n := s.count + 1
  { s with count := n, reversed := (pad false 6 (decimal n) ++ ['\t']).reverse ++ s.reversed }

/-- Shows a text. A carriage return in front of the end of a line is shown with it. -/
def show_ (d : Display) : Shown → Bytes → Shown
  | s, [] => s
  | s, '\n' :: rest =>
    let feeds := match s.feeds with
      | none => 0
      | some n => min 2 (n + 1)
    if d.squeezed && feeds = 2 then show_ d { s with feeds := some 2 } rest
    else
      let s := if 0 < feeds && d.numbered && !d.onlyFilled then number s else s
      show_ d { s with
        feeds := some feeds
        reversed := '\n' :: (if d.ends then '$' :: s.reversed else s.reversed) } rest
  | s, c :: rest =>
    let s := if s.feeds.isSome && d.numbered then number s else s
    let out := if c = '\r' && d.ends && rest.head? = some '\n' then ['^', 'M'] else d.text c
    show_ d { s with feeds := none, reversed := out.reverseAux s.reversed } rest

end Display

/-- What is said where the input has been closed. -/
def closedInput : Bytes := "closing standard input: ".toList ++ Trouble.message .badDescriptor

/-- The files after one another. -/
def cat : Executable := withOptions "AbeEnstTuv"
  [("number-nonblank", .never, 'b'), ("number", .never, 'n'), ("squeeze-blank", .never, 's'),
    ("show-nonprinting", .never, 'v'), ("show-ends", .never, 'E'), ("show-tabs", .never, 'T'),
    ("show-all", .never, 'A')] fun o => do
  let any (letters : String) : Bool := (o.last? letters).isSome
  let d : Display := ⟨any "nb", any "b", any "s", any "AeE", any "AtT", any "Aetv"⟩
  let scene ← get
  if scene.outputTrouble = some .badDescriptor then
    Act.quit ("standard output: ".toList ++ Trouble.message .badDescriptor)
  let mut s : Shown := ⟨[], 0, some 0⟩
  for arg in Act.orInput o.operands do
    let node := (scene.disk.find scene.directory arg).toOption
    let same : Bool := scene.outputFile.isSome && (node = scene.outputFile) && arg ≠ ['-']
    match ← Act.read arg with
    | .error t => Act.complain (Act.unreadable arg t)
    | .ok text =>
      if same && !text.isEmpty then Act.complain (shown arg ++ ": input file is output file".toList)
      else
        s := d.show_ { s with reversed := [] } text
        Act.put s.reversed.reverse
  if let .error .badDescriptor := scene.input then
    if (Act.orInput o.operands).contains ['-'] then Act.complain closedInput

/-- The input, printed and written to files. -/
def tee : Executable := withOptions "aip"
  [("append", .never, 'a'), ("ignore-interrupts", .never, 'i'), ("output-error", .attached, 'p')]
  fun o => do
  let scene ← get
  let mut files := []
  for arg in o.operands do
    match ← Act.writeFile (o.has 'a') arg [] with
    | none => files := arg :: files
    | some t => Act.complain (Act.unreadable arg t)
  match ← Act.readInput with
  | .error t => Act.complain ("read error: ".toList ++ t.message)
  | .ok text => do
    match scene.outputTrouble with
    | some t => if !text.isEmpty then Act.complain ("'standard output': ".toList ++ t.message)
    | none => Act.put text
    for arg in files.reverse do
      if let some t ← Act.writeFile true arg text then Act.complain (Act.unreadable arg t)

/-! ## Other output -/

/-- The same line for ever. -/
def yes : Executable := fun args => do
  let o ← Options.read ⟨"", [], false⟩ args
  let line := fed (if o.operands.isEmpty then ['y'] else spaced o.operands)
  Act.put (List.replicate (200000 / line.length + 1) line).flatten
  modify fun s => { s with endless := true }

/-- A text with escapes that is at most so long, behind a text in reverse: those of the shell, and
hexadecimal ones. An octal escape starts with a zero. Behind `\c` nothing counts. -/
def withEscapes : Nat → Bytes → Bytes → Bytes × Bool
  | 0, done, _ => (done.reverse, false)
  | n + 1, done, cs =>
    match cs with
    | [] => (done.reverse, false)
    | '\\' :: 'c' :: _ => (done.reverse, true)
    | '\\' :: '0' :: rest =>
      let (code, out) := octal 3 0 rest
      withEscapes n (byteChar code :: done) out
    | '\\' :: 'x' :: rest =>
      let ds := (rest.take 2).takeWhile fun c => (Arith.digit? 16 c).isSome
      if ds.isEmpty then withEscapes n ('x' :: '\\' :: done) rest
      else withEscapes n (byteChar (Arith.digits 16 0 ds).1 :: done) (rest.drop ds.length)
    | '\\' :: c :: rest =>
      match controlEscape? c with
      | some d => withEscapes n (d :: done) rest
      | none =>
        if '1' ≤ c && c ≤ '7' then
          let (code, out) := octal 3 0 (c :: rest)
          withEscapes n (byteChar code :: done) out
        else withEscapes n (c :: '\\' :: done) rest
    | c :: rest => withEscapes n (c :: done) rest

/-- The program `echo`, which leaves escapes alone unless it is told otherwise. -/
def echo : Executable := fun args => do
  let isOption (a : Bytes) : Bool := match a with
    | '-' :: c :: cs => (c :: cs).all (['n', 'e', 'E'].contains ·)
    | _ => false
  let options := args.takeWhile isOption
  let words := args.dropWhile isOption
  let letters := options.flatten.reverse
  let escapes := (letters.find? fun c => c = 'e' || c = 'E') = some 'e'
  let text := spaced words
  let (text, stop) := if escapes then withEscapes (text.length + 1) [] text else (text, false)
  Act.put (if letters.contains 'n' || stop then text else fed text)

/-- A program that prints nothing. -/
def silent (status : Nat) : Executable := fun _ => Act.finish status

/-! ## Waiting -/

/-- The longest time that is told apart from waiting for ever, in milliseconds. -/
def longest : Nat := 1000000000000

/-- A duration in milliseconds: a number that is not below 0, with an optional unit. -/
def duration? (cs : Bytes) : Option Nat :=
  match Point.read? cs with
  | none => none
  | some found =>
    let unit? : Option Nat := match found.rest with
      | [] | ['s'] => some 1
      | ['m'] => some 60
      | ['h'] => some 3600
      | ['d'] => some 86400
      | _ => none
    if found.value.isUndefined || (found.value.negative && found.value.code ≠ 0) then none
    else unit?.map fun unit =>
      if found.value.isInfinite then longest
      else
        let (num, den) := Point.ratio found.value
        min longest ((num * (1000 * unit) + den - 1) / den)

/-- Waits as long as all arguments say. -/
def sleep : Executable := withOptions "" [] fun o => do
  if o.operands.isEmpty then Act.misuse "missing operand".toList
  let bad := o.operands.filter fun a => (duration? a).isNone
  for a in bad do
    Act.warn ("invalid time interval ".toList ++ visibly a)
  if !bad.isEmpty then Act.refer
  let total := (o.operands.filterMap duration?).foldl (· + ·) 0
  modify fun s => { s with slept := s.slept + total }

end ActionTree.Sh.Streams
