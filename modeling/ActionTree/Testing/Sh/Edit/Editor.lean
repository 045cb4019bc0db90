import ActionTree.Testing.Sh.Edit.Basic
import ActionTree.Testing.Sh.Executable.Options

/-!
# Editing lines by a script

The lines of all files are edited one after another: each is put into a space, the script is carried
out, and the space is printed. A second space keeps text from line to line. What is printed is
written when all is done.

* `Edit.Editor`: the state between two commands.
* `Edit.run`: edits all lines.
-/

namespace ActionTree.Sh.Edit

/-- How lines are edited. -/
structure Manner where
  script : Script
  silent : Bool
  /-- Does each file have its own last line? -/
  separate : Bool
  /-- Are the files changed? What is behind the names of their old versions is given. -/
  inPlace : Option Bytes
  feed : Char
  /-- The width of lines that are printed with escapes. -/
  width : Nat

/-- Printed text in reverse, and whether the end of its last line is missing. -/
structure Output where
  reversed : Bytes
  isOpen : Bool

/-- Text that is printed when the space has been. -/
inductive Queued where
  | text (cs : Bytes)
  | file (name : Bytes)

/-- Is a range of lines open, and up to which line if that is known? -/
inductive Range where
  | closed
  | upTo (last : Option Nat)

/-- The state between two commands. -/
structure Editor where
  /-- The files that are still to be opened. -/
  waiting : List Bytes
  /-- The files that are open but not started. -/
  opened : List (Bytes × Bytes)
  name : Bytes
  rest : Bytes
  number : Nat
  /-- The text that is edited, and whether its line had an end. -/
  space : Array Char
  ended : Bool
  kept : Array Char
  keptEnded : Bool
  ranges : Array Range
  replaced : Bool
  lastRule : Option Rule
  /-- What is printed behind the space, the latest first. -/
  queue : List Queued
  output : Output
  /-- What becomes of the file that is changed. -/
  changed : Output
  /-- The files that are written to, each with whether the end of a line is missing. -/
  files : List (Bytes × Bool)
  /-- What is left of files that are read by lines. -/
  readers : List (Bytes × Bytes)
  /-- How much is still done before the next line is read. -/
  left : Nat
  /-- Is the input one of the files that were opened? -/
  usesInput : Bool
  status : Nat

/-- A computation that edits. -/
abbrev Editing (α : Type) := StateT Editor (ExceptT Nat (StateM Scene)) α

/-! ## Output -/

/-- Text behind printed text, after an end of line if one is missing. -/
def Output.add (o : Output) (feed : Char) (cs : Bytes) : Output :=
  ⟨cs.reverseAux (if o.isOpen then feed :: o.reversed else o.reversed), false⟩

/-- A line behind printed text; it may have no end. -/
def Output.addLine (o : Output) (feed : Char) (line : Array Char) (ended : Bool) : Output :=
  let before := if o.isOpen then feed :: o.reversed else o.reversed
  let reversed := line.foldl (fun cs c => c :: cs) before
  ⟨if ended then feed :: reversed else reversed, !ended⟩

/-- Changes what is printed. -/
def change (m : Manner) (f : Output → Output) : Editing Unit :=
  modify fun e =>
    if m.inPlace.isSome then { e with changed := f e.changed } else { e with output := f e.output }

/-- Prints text. -/
def put (m : Manner) (cs : Bytes) : Editing Unit := change m (·.add m.feed cs)

/-- Prints the space. -/
def putSpace (m : Manner) : Editing Unit := do
  let e ← get
  change m (·.addLine m.feed e.space e.ended)

/-- Writes a line to a file of the script, which may be the output. -/
def writeTo (m : Manner) (name : Bytes) (line : Array Char) (ended : Bool) : Editing Unit := do
  let e ← get
  let isOpen := (e.files.find? (·.1 = name)).any (·.2)
  let o := Output.addLine ⟨[], isOpen⟩ m.feed line ended
  set { e with files := (name, o.isOpen) :: e.files.filter (·.1 ≠ name) }
  if name = outputName then
    modify fun e =>
      { e with output := { e.output with reversed := o.reversed ++ e.output.reversed } }
  else discard (Act.writeFile true name o.reversed.reverse)

/-- Prints what has been put off. -/
def putQueued (m : Manner) : Editing Unit := do
  let e ← get
  if e.queue.isEmpty then return
  set { e with queue := [] }
  for q in e.queue.reverse do
    match q with
    | .text cs => put m cs
    | .file name =>
      match ← Act.read name with
      | .ok cs => put m cs
      | .error _ => put m []

/-- Writes all that was printed and ends the program. -/
def finish {α : Type} (status : Nat) : Editing α := do
  let text := (← get).output.reversed.reverse
  match (← getThe Scene).outputTrouble, text.isEmpty with
  | some .badDescriptor, false =>
    Act.warn ("couldn't close stdout: ".toList ++ Trouble.message .badDescriptor)
    Act.finish 4
  | some t, false =>
    Act.warn ("couldn't flush stdout: ".toList ++ t.message)
    Act.finish 4
  | _, _ =>
    Act.put text
    Act.finish status

/-- Says what is wrong and ends the program. -/
def stop {α : Type} (status : Nat) (what : Bytes) : Editing α := do
  Act.warn what
  finish status

/-! ## Input -/

/-- The name of the input. -/
def inputName : Bytes := ['-']

/-- Opens a file; one that cannot be opened is left out. -/
def openFile (m : Manner) (name : Bytes) : Editing Unit := do
  let e ← get
  if name = inputName && m.inPlace.isNone then
    match (← getThe Scene).input with
    | .ok text => set { e with opened := e.opened ++ [(name, text)], usesInput := true }
    | .error t => stop 4 ("read error on stdin: ".toList ++ t.message)
  else
    match ← Act.find name with
    | .error t => do
      Act.warn ("can't read ".toList ++ name ++ ": ".toList ++ t.message)
      set { e with status := 2 }
    | .ok k => do
      let isFile := match (← getThe Scene).disk.kind k with
        | .file _ => true
        | _ => false
      if m.inPlace.isSome && !isFile then
        Act.warn ("couldn't edit ".toList ++ name ++ ": not a regular file".toList)
        set { e with status := 4 }
      else
        match ← Act.readNode k with
        | .ok text => set { e with opened := e.opened ++ [(name, text)] }
        | .error t => stop 4 ("read error on ".toList ++ name ++ ": ".toList ++ t.message)

/-- Opens files until one of them has lines, at most so many. -/
def openMore (m : Manner) : Nat → Editing Unit
  | 0 => pure ()
  | n + 1 => do
    let e ← get
    if e.opened.any (!·.2.isEmpty) then return
    match e.waiting with
    | [] => return
    | name :: waiting => do
      set { e with waiting := waiting }
      openFile m name
      openMore m n

/-- Is the line the last one? -/
def isLast (m : Manner) : Editing Bool := do
  let e ← get
  if !e.rest.isEmpty then return false
  if m.separate then return true
  openMore m e.waiting.length
  return !(← get).opened.any (!·.2.isEmpty)

/-- The name that the old version of a file gets: a star stands for the name of the file, and a name
without one is put behind it. -/
def oldName (suffix name : Bytes) : Bytes :=
  let base := Path.last name
  let front := name.take (name.length - base.length)
  if suffix.contains '*' then
    let new := suffix.flatMap fun c => if c = '*' then base else [c]
    if new.contains '/' then new else front ++ new
  else front ++ base ++ suffix

/-- Ends the file that is changed. -/
def endFile (m : Manner) : Editing Unit := do
  let e ← get
  match m.inPlace, e.name.isEmpty with
  | some suffix, false => do
    if !suffix.isEmpty then
      if let .ok old ← Act.read e.name then
        discard (Act.writeFile false (oldName suffix e.name) old)
    discard (Act.writeFile false e.name e.changed.reversed.reverse)
    set { e with changed := ⟨[], false⟩ }
  | _, _ => pure ()

/-- How many files there may be before one with lines. -/
def filesLeft : Editing Nat := return (← get).waiting.length + (← get).opened.length + 1

/-- The state of each range before the first line. -/
def startRanges (s : Script) : Array Range :=
  s.steps.map fun step => match step.selection.first with
    | some (.line 0) => .upTo none
    | _ => .closed

/-- Starts the next file that has lines; at most so many are tried. Is there one? -/
def nextFile (m : Manner) : Nat → Editing Bool
  | 0 => return false
  | n + 1 => do
    if (← get).opened.isEmpty then openMore m (← get).waiting.length
    match (← get).opened with
    | [] => return false
    | (name, text) :: opened => do
      endFile m
      modify fun e => { e with opened := opened, name := name, rest := text }
      if m.separate then
        modify fun e => { e with number := 0, ranges := startRanges m.script }
      if text.isEmpty then nextFile m n else return true

/-- A line of a text behind a space, whether it has an end, and the text behind it. -/
def takeLine (feed : Char) : Array Char → Bytes → Array Char × Bool × Bytes
  | space, [] => (space, false, [])
  | space, c :: rest => if c = feed then (space, true, rest) else takeLine feed (space.push c) rest

/-- How much is done at most for one line. -/
def mostPerLine : Nat := 200000

/-- Reads the next line into the space, or behind it. Is there one? -/
def readLine (m : Manner) (behind : Bool) : Editing Bool := do
  putQueued m
  modify fun e => { e with replaced := false }
  let hasLine ← if (← get).rest.isEmpty then do nextFile m (← filesLeft) else pure true
  if !hasLine then return false
  modify fun e =>
    let start := if behind then e.space.push m.feed else #[]
    let (space, ended, rest) := takeLine m.feed start e.rest
    { e with
      space := space, ended := ended, rest := rest, number := e.number + 1, left := mostPerLine }
  return true

/-! ## Selections -/

/-- The rule that is meant; no rule is the one used last. -/
def ruleOf (rule : Option Rule) : Editing Rule := do
  let e ← get
  match rule, e.lastRule with
  | some r, _ => do
    set { e with lastRule := some r }
    return r
  | none, some r => return r
  | none, none => stop 1 "-e expression #1, char 0: no previous regular expression".toList

/-- What a rule is compared with. -/
def Rule.subject (r : Rule) (m : Manner) (space : Array Char) : Subject :=
  ⟨space, r.ignoresCase, r.hasLines && m.feed = '\n'⟩

/-- Is the line one that an address chooses? -/
def chosen (m : Manner) : Address → Editing Bool
  | .line n => return (← get).number = n
  | .last => isLast m
  | .every first step => do
    let n := (← get).number
    return first ≤ n && (n - first) % step = 0
  | .fits rule => do
    let r ← ruleOf rule
    return (r.expression.search (r.subject m (← get).space) 0).isSome

/-- The state of a range that starts at a line. -/
def Extent.start (number : Nat) : Extent → Range
  | .upTo (.line n) => if n ≤ number then .closed else .upTo (some n)
  | .upTo _ => .upTo none
  | .lines n => if n = 0 then .closed else .upTo (some (number + n))
  | .multiple n =>
    if n = 0 || number % n = 0 then .closed else .upTo (some ((number / n + 1) * n))

/-- Sets the state of the range of a command. -/
def setRange (place : Nat) (r : Range) : Editing Unit :=
  modify fun e => { e with ranges := e.ranges.setIfInBounds place r }

/-- Is the line in a range, given the range of the command at a place? -/
def inRange (m : Manner) (place : Nat) (first : Address) (extent : Extent) : Editing Bool := do
  let e ← get
  match e.ranges[place]? with
  | some (.upTo (some n)) => do
    if n ≤ e.number then setRange place .closed
    return e.number ≤ n
  | some (.upTo none) => do
    if let .upTo a := extent then
      if ← chosen m a then setRange place .closed
    return true
  | _ =>
    if ← chosen m first then
      setRange place (extent.start e.number)
      return true
    else return false

/-- Is the command at a place carried out? -/
def selected (m : Manner) (place : Nat) (s : Selection) : Editing Bool := do
  let found ← match s.first, s.extent with
    | none, _ => pure true
    | some a, none => chosen m a
    | some a, some x => inRange m place a x
  return found != s.negated

/-! ## Replacements -/

/-- A text in reverse, and how letters behind it are written: all of them, and the next one. -/
structure Writer where
  reversed : Bytes
  usual : Casing
  next : Casing

/-- A letter in a casing. -/
def Casing.apply (c : Char) : Casing → Char
  | .plain => c
  | .upper | .nextUpper => c.toUpper
  | .lower | .nextLower => c.toLower

/-- Writes a character. -/
def Writer.add (w : Writer) (c : Char) : Writer :=
  match w.next with
  | .plain => { w with reversed := w.usual.apply c :: w.reversed }
  | next => { w with reversed := next.apply c :: w.reversed, next := .plain }

/-- Changes how letters are written. -/
def Writer.switch (w : Writer) (c : Casing) : Writer :=
  match c with
  | .nextUpper | .nextLower => { w with next := c }
  | c => { w with usual := c, next := .plain }

/-- The start and the end of a group of a fit that starts at a place. -/
def Fit.span (f : Fit) (start n : Nat) : Nat × Nat :=
  if n = 0 then (start, f.place) else (f.group? n).getD (0, 0)

/-- Writes the pieces that replace a match. -/
def writePieces (space : Array Char) (start : Nat) (f : Fit) (pieces : List Piece)
    (done : Bytes) : Bytes :=
  (pieces.foldl (fun (w : Writer) p => match p with
    | .char c => w.add c
    | .casing c => w.switch c
    | .group n =>
      let (i, j) := Fit.span f start n
      (space.extract i j).foldl Writer.add w) ⟨done, .plain, .plain⟩).reversed

/-- Text between two places behind a text in reverse. -/
def copy (space : Array Char) (i j : Nat) (done : Bytes) : Bytes :=
  (space.extract i j).foldl (fun cs c => c :: cs) done

/-- The text in reverse with matches replaced from a place on: how many matches were passed before,
and where the last one ended. At most so many matches are looked at. -/
def replaceFrom (s : Substitution) (r : Rule) (subject : Subject) :
    Nat → Nat → Nat → Option Nat → Bytes → Bool → Bytes × Bool
  | 0, i, _, _, done, found => (copy subject.chars i subject.chars.size done, found)
  | n + 1, i, count, last, done, found =>
    let size := subject.chars.size
    match if i ≤ size then r.expression.search subject i else none with
    | none => (copy subject.chars i size done, found)
    | some (j, f) =>
      let done := copy subject.chars i j done
      let isEmpty := f.place = j
      let behind (cs : Bytes) : Bytes := if isEmpty then copy subject.chars j (j + 1) cs else cs
      let next := if isEmpty then j + 1 else f.place
      if isEmpty && last = some j then
        replaceFrom s r subject n next count none (behind done) found
      else if count + 1 < s.start then
        replaceFrom s r subject n next (count + 1) (some f.place)
          (behind (copy subject.chars j f.place done)) found
      else
        let done := writePieces subject.chars j f s.pieces done
        if s.all then
          replaceFrom s r subject n next (count + 1) (some f.place) (behind done) true
        else (copy subject.chars f.place size done, true)

/-- Carries out a replacement. -/
def substitute (m : Manner) (s : Substitution) : Editing Unit := do
  let r ← ruleOf s.rule
  let e ← get
  let (done, found) := replaceFrom s r (r.subject m e.space) (e.space.size + 2) 0 0 none [] false
  if found then
    set { e with space := done.reverse.toArray, replaced := true }
    if s.printed then putSpace m
    if let some name := s.file then writeTo m name (← get).space (← get).ended

/-! ## Commands -/

/-- What happens behind a command. -/
inductive Turn where
  | on
  | jump (place : Nat)
  /-- The script ends; the space is printed, or not. -/
  | finished (printed : Bool)
  /-- The script starts anew without another line. -/
  | again
  | quit (status : Nat) (printed : Bool)

/-- The space with escapes, in lines of a width. -/
def escapedLines (width : Nat) (space : Array Char) : Bytes :=
  let (done, _) := space.foldl (fun (acc : Bytes × Nat) c =>
    let cs := if c = '\\' then ['\\', '\\'] else if isPrintable c then [c] else escapeText c
    let breaks := 0 < width && width - 1 < acc.2 + cs.length
    let done := if breaks then '\n' :: '\\' :: acc.1 else acc.1
    (cs.reverseAux done, (if breaks then 0 else acc.2) + cs.length)) ([], 0)
  ('\n' :: '$' :: done).reverse

/-- The first line of the space, if there are several. -/
def firstLine? (m : Manner) (space : Array Char) : Option (Array Char) :=
  (space.findIdx? (· = m.feed)).map fun i => space.extract 0 i

/-- The next line of a file that is read by lines, with its end. -/
def fileLine (name : Bytes) : Editing (Option Bytes) := do
  let e ← get
  let text ← match e.readers.find? (·.1 = name) with
    | some (_, rest) => pure rest
    | none => do
      match ← Act.read name with
      | .ok text => pure text
      | .error _ => pure []
  let line := text.takeWhile (· ≠ '\n')
  let rest := text.drop (line.length + 1)
  modify fun e => { e with readers := (name, rest) :: e.readers.filter (·.1 ≠ name) }
  if text.isEmpty then return none
  return some (text.take (line.length + 1))

/-- Puts text off until the space has been printed. -/
def putOff (q : Queued) : Editing Unit := modify fun e => { e with queue := q :: e.queue }

/-- Carries out the command at a place. -/
def perform (m : Manner) (place : Nat) (s : Selection) (c : Command) : Editing Turn := do
  let jump (label : Bytes) : Turn := .jump ((m.script.target? label).getD m.script.steps.size)
  match c with
  | .block _ | .close => return .on
  | .jump .always label => return jump label
  | .jump .replaced label => do
    if (← get).replaced then
      modify fun e => { e with replaced := false }
      return jump label
    else return .on
  | .jump .unreplaced label => do
    if (← get).replaced then
      modify fun e => { e with replaced := false }
      return .on
    else return jump label
  | .append text => do
    if !text.isEmpty then putOff (.text text)
    return .on
  | .insert text => do
    if !text.isEmpty then put m text
    return .on
  | .change text => do
    let isOpen := match s.extent, (← get).ranges[place]? with
      | some _, some (.upTo _) => true
      | _, _ => false
    if !isOpen && !text.isEmpty then put m text
    return .finished false
  | .delete => return .finished false
  | .deleteFirst => do
    let e ← get
    match firstLine? m e.space with
    | none => return .finished false
    | some line => do
      set { e with space := e.space.extract (line.size + 1) e.space.size }
      return .again
  | .printNumber => do
    put m (fed (decimal (← get).number))
    return .on
  | .printName => do
    put m (fed (← get).name)
    return .on
  | .printEscaped width => do
    put m (escapedLines (width.getD m.width) (← get).space)
    return .on
  | .print => do
    putSpace m
    return .on
  | .printFirst => do
    let e ← get
    match firstLine? m e.space with
    | some line => change m (·.addLine m.feed line true)
    | none => putSpace m
    return .on
  | .fetch => do
    modify fun e => { e with space := e.kept, ended := e.keptEnded }
    return .on
  | .fetchMore => do
    modify fun e => { e with space := e.space.push m.feed ++ e.kept }
    return .on
  | .keep => do
    modify fun e => { e with kept := e.space, keptEnded := e.ended }
    return .on
  | .keepMore => do
    modify fun e => { e with kept := e.kept.push m.feed ++ e.space }
    return .on
  | .exchange => do
    modify fun e =>
      { e with space := e.kept, ended := e.keptEnded, kept := e.space, keptEnded := e.ended }
    return .on
  | .next => do
    if ← isLast m then return .finished true
    if !m.silent then putSpace m
    if ← readLine m false then return .on else return .finished false
  | .nextMore => do
    if ← isLast m then return .finished true
    if ← readLine m true then return .on else return .finished true
  | .quit status silent => do
    let before := (← get).status
    return .quit (if before = 0 then status else before) (!silent)
  | .readFile name => do
    putOff (.file name)
    return .on
  | .readLine name => do
    if let some line ← fileLine name then putOff (.text line)
    return .on
  | .write name => do
    writeTo m name (← get).space (← get).ended
    return .on
  | .writeFirst name => do
    let e ← get
    match firstLine? m e.space with
    | some line => writeTo m name line true
    | none => writeTo m name e.space e.ended
    return .on
  | .substitute s => do
    substitute m s
    return .on
  | .translate pairs => do
    modify fun e => { e with
      space := e.space.map fun c => ((pairs.find? (·.1 = c)).map (·.2)).getD c }
    return .on
  | .clear => do
    modify fun e => { e with space := #[] }
    return .on

/-- Takes as much of the input as was read; of what cannot be read from any place on, whole blocks.
-/
def takeInput : Editing Unit := do
  let e ← get
  if e.usesInput then
    if e.name = inputName && !e.rest.isEmpty then
      let scene ← getThe Scene
      if let .ok text := scene.input then
        let block := 4096
        let used := text.length - e.rest.length
        let isExact := scene.inputFile.isSome || scene.inputEndless
        let n := if isExact then used else min ((used + block - 1) / block * block) text.length
        Act.take n (text.drop n)
    else if !e.opened.any (·.1 = inputName) then discard Act.readInput

/-- Ends the editing with a status. -/
def conclude (m : Manner) (status : Nat) : Editing Unit := do
  putQueued m
  endFile m
  takeInput
  finish status

/-- Reads the next line, or ends the editing. -/
def nextLine (m : Manner) : Editing Unit := do
  if !(← readLine m false) then conclude m (← get).status

/-- Edits lines from a place of the script on, with at most so many commands. -/
def go (m : Manner) : Nat → Nat → Editing Unit
  | 0, _ => pure ()
  | n + 1, place => do
    let e ← get
    let cost := 1 + e.space.size / 16
    if e.left < cost then
      Act.put e.output.reversed.reverse
      modifyThe Scene fun s => { s with endless := true }
      Act.finish 0
    set { e with left := e.left - cost }
    match m.script.steps[place]? with
    | none => do
      if !m.silent then putSpace m
      nextLine m
      go m n 0
    | some step =>
      if ← selected m place step.selection then
        match ← perform m place step.selection step.command with
        | .on => go m n (place + 1)
        | .jump k => go m n k
        | .finished printed => do
          if printed && !m.silent then putSpace m
          nextLine m
          go m n 0
        | .again => do
          putQueued m
          go m n 0
        | .quit status printed => do
          if printed && !m.silent then putSpace m
          conclude m status
      else match step.command with
        | .block close => go m n (close + 1)
        | _ => go m n (place + 1)

/-- No more commands are carried out. -/
def mostCommands : Nat := 1000000000000

/-- Edits all lines of files. -/
def run (m : Manner) (files : List Bytes) : Act Unit := do
  let editor : Editor :=
    { waiting := files, opened := [], name := [], rest := [], number := 0, space := #[]
      ended := true, kept := #[], keptEnded := true, ranges := startRanges m.script
      replaced := false, lastRule := none, queue := [], output := ⟨[], false⟩
      changed := ⟨[], false⟩, files := [], readers := [], left := mostPerLine
      usesInput := false, status := 0 }
  let edit : Editing Unit := do
    nextLine m
    go m mostCommands 0
  discard (edit.run editor)

end ActionTree.Sh.Edit
