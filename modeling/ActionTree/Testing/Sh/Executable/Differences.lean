import ActionTree.Testing.Sh.Calendar
import ActionTree.Testing.Sh.Difference
import ActionTree.Testing.Sh.Pattern
import ActionTree.Testing.Sh.Executable.Parts
import Std.Data.HashMap

/-!
# Comparing lines

`diff` says which lines have to be removed from a file and added to it, so that it becomes another
one, and compares directories file by file.

* `Differences.compareTexts`: what differs between two texts, as a style shows it.
* `Differences.comparePaths`: what differs between what two paths lead to.
-/

namespace ActionTree.Sh.Differences

open Difference

/-- How differences are shown. -/
inductive Style where
  | normal
  /-- With so many lines around them. -/
  | unified (around : Nat)
  /-- With so many lines around them, apart for each text. -/
  | context (around : Nat)
  deriving DecidableEq

/-- How many lines are shown around differences. -/
def Style.around : Style → Nat
  | normal => 0
  | unified n | context n => n

/-- What a call asks for. -/
structure Wanted where
  style : Style
  options : Options
  labels : List Bytes
  /-- The options as they were given. -/
  words : List Bytes

namespace Wanted

/-- Is an option given? -/
def has (w : Wanted) (c : Char) : Bool := w.options.has c

/-- Does the white space at the end of a line count? -/
def seesEnds (w : Wanted) : Bool := !(w.has 'b' || w.has 'w' || w.has 'Z')

end Wanted

/-! ## Lines -/

/-- A line; the last one may not end with a line feed. -/
structure Line where
  text : Bytes
  ends : Bool
  deriving DecidableEq

/-- The lines of a text. -/
def linesIn (cs : Bytes) : List Line :=
  let ls := splitAt '\n' cs
  let whole := ls.dropLast.map fun l => ⟨l, true⟩
  match ls.getLast? with
  | none | some [] => whole
  | some l => whole ++ [⟨l, false⟩]

/-- A text in which each row of white space is one blank, and none is at the end. -/
def withSingleBlanks (isSpace : Char → Bool) : Nat → Bytes → Bytes
  | 0, _ => []
  | n + 1, cs =>
    match cs with
    | [] => []
    | c :: rest =>
      if isSpace c then
        match rest.dropWhile isSpace with
        | [] => []
        | rest => ' ' :: withSingleBlanks isSpace n rest
      else c :: withSingleBlanks isSpace n rest

/-- A text in which tabulators are blanks, from a column on. -/
def withoutTabs (column : Nat) : Bytes → Bytes
  | [] => []
  | '\t' :: rest =>
    let next := column / 8 * 8 + 8
    List.replicate (next - column) ' ' ++ withoutTabs next rest
  | c :: rest => c :: withoutTabs (column + 1) rest

/-- What of a line counts: lines are equal if this is. -/
def keyOf (w : Wanted) (l : Line) : String :=
  let isSpace := Arith.isSpace
  let cs := if w.has 'i' then l.text.map Char.toLower else l.text
  let cs :=
    if w.has 'w' then cs.filter (!isSpace ·)
    else if w.has 'b' then withSingleBlanks isSpace (cs.length + 1) cs
    else
      let cs := if w.has 'Z' then (cs.reverse.dropWhile isSpace).reverse else cs
      if w.has 'E' then withoutTabs 0 cs else cs
  String.ofList (if l.ends || !w.seesEnds then '\n' :: cs else cs)

/-- Lines as numbers, behind the numbers of those that are known. -/
def numbered (w : Wanted) (known : Std.HashMap String Nat) (ls : List Line) :
    Array Nat × Std.HashMap String Nat :=
  ls.foldl (fun (ns, known) l =>
    let key := keyOf w l
    match known[key]? with
    | some n => (ns.push n, known)
    | none => (ns.push known.size, known.insert key known.size)) (#[], known)

/-- How many lines two texts have in common at the start. -/
def commonStart : List Line → List Line → Nat
  | a :: as, b :: bs => if a = b then commonStart as bs + 1 else 0
  | _, _ => 0

/-- What differs between two texts. Equal lines at the start and at the end are not looked at, apart
from so many of them. -/
def changesOf (w : Wanted) (horizon : Nat) (lefts rights : List Line) : List Change :=
  let before := commonStart lefts rights - horizon
  let lefts := lefts.drop before
  let rights := rights.drop before
  let after := commonStart lefts.reverse rights.reverse - horizon
  let (left, known) := numbered w ∅ (lefts.take (lefts.length - after))
  let (right, _) := numbered w known (rights.take (rights.length - after))
  (⟨left, right⟩ : Texts).changes before

/-! ## Showing changes -/

/-- A text of lines and what changes in it. -/
structure Pair where
  left : Array Line
  right : Array Line
  changes : List Change

/-- A line behind a mark. -/
def marked (mark : String) (l : Line) : Bytes :=
  mark.toList ++ fed l.text
    ++ (if l.ends then [] else "\\ No newline at end of file\n".toList)

/-- Lines from a place on, so many of them, each behind a mark. -/
def markedLines (mark : String) (ls : Array Line) (start count : Nat) : Bytes :=
  (ls.extract start (start + count)).toList.flatMap (marked mark)

/-- The numbers of the first and the last line behind a place; of no lines, that of the one before.
-/
def span (start count : Nat) : Bytes :=
  if count ≤ 1 then decimal (start + count)
  else decimal (start + 1) ++ ',' :: decimal (start + count)

/-- A change: what becomes of which lines, the lines that are removed and those that are added. -/
def changeText (p : Pair) (c : Change) : Bytes :=
  let letter := if c.removed = 0 then 'a' else if c.added = 0 then 'd' else 'c'
  span c.left c.removed ++ letter :: fed (span c.right c.added)
    ++ markedLines "< " p.left c.left c.removed
    ++ (if letter = 'c' then "---\n".toList else [])
    ++ markedLines "> " p.right c.right c.added

/-- Does a change only concern empty lines? -/
def isBlank (p : Pair) (c : Change) : Bool :=
  let isEmpty (l : Line) : Bool := l.text.isEmpty
  (p.left.extract c.left (c.left + c.removed)).all isEmpty
    && (p.right.extract c.right (c.right + c.added)).all isEmpty

/-- Changes in rows, each change with whether it counts: those are together that have lines in
common which are shown around them. One that does not count is only shown with lines of another one.
-/
def rowsOf (around : Nat) : List (Change × Bool) → List (List (Change × Bool))
  | [] => []
  | c :: rest =>
    match rowsOf around rest with
    | [] => [[c]]
    | row :: rows =>
      match row.head? with
      | some (d, counts) =>
        let between := d.left - (c.1.left + c.1.removed)
        if between < (if counts then 2 * around + 1 else around) then (c :: row) :: rows
        else [c] :: row :: rows
      | none => [c] :: rows

/-- The lines that a row of changes is shown with, in both texts: the first one and how many. -/
def frame (p : Pair) (around : Nat) (row : List Change) : (Nat × Nat) × (Nat × Nat) :=
  match row.head?, row.getLast? with
  | some c, some d =>
    let before := min around c.left
    let after := min around (p.left.size - (d.left + d.removed))
    ((c.left - before, d.left + d.removed + after - (c.left - before)),
      (c.right - before, d.right + d.added + after - (c.right - before)))
  | _, _ => ((0, 0), (0, 0))

/-- The place of lines in the head of a row: the first one, and how many unless it is one. -/
def place (start count : Nat) : Bytes :=
  if count = 1 then decimal (start + 1)
  else if count = 0 then decimal start ++ ",0".toList
  else decimal (start + 1) ++ ',' :: decimal count

/-- A row of changes with the lines around them. -/
def unifiedRow (p : Pair) (around : Nat) (row : List Change) : Bytes :=
  let ((start, count), (otherStart, otherCount)) := frame p around row
  let body := row.foldl (fun (done, i) c =>
    (done ++ markedLines " " p.left i (c.left - i) ++ markedLines "-" p.left c.left c.removed
      ++ markedLines "+" p.right c.right c.added, c.left + c.removed)) (([] : Bytes), start)
  "@@ -".toList ++ place start count ++ " +".toList ++ place otherStart otherCount ++ " @@\n".toList
    ++ body.1 ++ markedLines " " p.left body.2 (start + count - body.2)

/-- A row of changes with the lines around them, first in one text and then in the other. -/
def contextRow (p : Pair) (around : Nat) (row : List Change) : Bytes :=
  let ((start, count), (otherStart, otherCount)) := frame p around row
  let side (mark : String) (ls : Array Line) (start count : Nat)
      (part : Change → Nat × Nat) : Bytes :=
    let body := row.foldl (fun (done, i) c =>
      let (first, n) := part c
      let mark := if c.removed ≠ 0 && c.added ≠ 0 then "! " else mark
      (done ++ markedLines "  " ls i (first - i) ++ markedLines mark ls first n, first + n))
      (([] : Bytes), start)
    body.1 ++ markedLines "  " ls body.2 (start + count - body.2)
  "***************\n*** ".toList ++ span start count ++ " ****\n".toList
    ++ (if row.any (·.removed ≠ 0) then
      side "- " p.left start count fun c => (c.left, c.removed) else [])
    ++ "--- ".toList ++ span otherStart otherCount ++ " ----\n".toList
    ++ (if row.any (·.added ≠ 0) then
      side "+ " p.right otherStart otherCount fun c => (c.right, c.added) else [])

/-- What differs between two texts, as a style shows it, in rows. -/
def rowTexts (w : Wanted) (p : Pair) : List Bytes :=
  let all := p.changes.map fun c => (c, !w.has 'B' || !isBlank p c)
  let rows := match w.style with
    | .normal => all.map ([·])
    | style => rowsOf style.around all
  let counted := (rows.filter (·.any (·.2))).map (·.map (·.1))
  match w.style with
  | .normal => counted.map fun row => row.flatMap (changeText p)
  | .unified n => counted.map (unifiedRow p n)
  | .context n => counted.map (contextRow p n)

/-! ## Files -/

/-- A name as heads show it: between quotes if it has blanks or the like. -/
def headName (name : Bytes) : Bytes :=
  let isTame (c : Char) : Bool := isPrintable c && c ≠ ' ' && c ≠ '"' && c ≠ '\\'
  if name.all isTame then name
  else
    let inner := name.flatMap fun c =>
      if c = '"' || c = '\\' then ['\\', c] else if isPrintable c then [c] else escapeText c
    '"' :: inner ++ ['"']

/-- A file that is compared. -/
structure Side where
  name : Bytes
  text : Bytes
  /-- When it was written, in milliseconds. -/
  time : Nat

/-- The head of what is shown for two files, unless the style needs none. -/
def head (w : Wanted) (a b : Side) : Bytes :=
  let title (mark : String) (i : Nat) (s : Side) : Bytes :=
    let time := Calendar.written
      (.ofEpoch (Calendar.origin + (s.time / 1000 : Nat)) (s.time % 1000 * 1000000))
      "%Y-%m-%d %H:%M:%S.%N %z".toList
    let named := match w.labels[i]? with
      | some label => label
      | none => headName s.name ++ '\t' :: time
    mark.toList ++ ' ' :: fed named
  match w.style with
  | .normal => []
  | .unified _ => title "---" 0 a ++ title "+++" 1 b
  | .context _ => title "***" 0 a ++ title "---" 1 b

/-- Compares two files; `above` is shown over differences. Do they differ? -/
def compareTexts (w : Wanted) (above : Bytes) (a b : Side) : Act Bool := do
  let both (what : String) (ending : String) : Bytes :=
    what.toList ++ a.name ++ " and ".toList ++ b.name ++ fed ending.toList
  let isBinary (s : Side) : Bool := !w.has 'a' && s.text.contains '\x00'
  let same := a.text = b.text
  let rows :=
    if same || isBinary a || isBinary b then []
    else
      let lefts := linesIn a.text
      let rights := linesIn b.text
      rowTexts w ⟨lefts.toArray, rights.toArray, changesOf w w.style.around lefts rights⟩
  let binary := !same && (isBinary a || isBinary b)
  let differs := binary || !rows.isEmpty
  if w.has 'q' then
    if differs then Act.put (both "Files " " differ")
  else if binary then Act.put (above ++ both "Binary files " " differ")
  else if differs then Act.put (above ++ head w a b ++ rows.flatten)
  if !differs && w.has 's' then Act.put (both "Files " " are identical")
  return differs

/-- What a kind of node is called. -/
def kindName : Kind → String
  | .file c => if c.size = 0 then "regular empty file" else "regular file"
  | .directory _ => "directory"
  | .link _ => "symbolic link"
  | .program _ => "regular file"
  | .device _ => "character special file"

/-- The options as they stand over differences. -/
def command (w : Wanted) (a b : Bytes) : Bytes :=
  fed (spaced ("diff".toList :: w.words.map headName ++ [headName a, headName b]))

/-- The file at a path. One that is not there is empty, if options say so. -/
def side (w : Wanted) (path : Bytes) : Act (Except Trouble Side) := do
  let s ← get
  if path = ['-'] then return (← Act.readInput).map fun text => ⟨path, text, s.clock⟩
  else match ← Act.find path with
    | .error .absent => return if w.has 'N' then .ok ⟨path, [], 0⟩ else .error .absent
    | .error t => return .error t
    | .ok n => do
      let text := if s.disk.kind n matches .device .zero then .ok Disk.endless else s.disk.textOf n
      let text ← match s.disk.kind n with
        | .device (.descriptor 0) => Act.readInput
        | _ => pure text
      return text.map fun text => ⟨path, text, (s.disk.node n).time⟩

/-- The end of a comparison: nothing differs, something differs, or something went wrong. -/
def worst (a b : Nat) : Nat := max a b

/-- Compares two files by their paths, of which one may not be there. -/
def compareFiles (w : Wanted) (above a b : Bytes) : Act Nat := do
  let left ← side w a
  let right ← if a = b && a = ['-'] then pure left else side w b
  let absent (path : Bytes) (e : Except Trouble Side) : Act Unit := do
    if let .error t := e then Act.warn (path ++ ": ".toList ++ t.message)
  absent a left
  absent b right
  match left, right with
  | .ok left, .ok right =>
    if w.has 'N' && !isThere (← Act.find a) && !isThere (← Act.find b)
        && a ≠ ['-'] && b ≠ ['-'] then
      Act.warn (a ++ ": ".toList ++ Trouble.message .absent)
      Act.warn (b ++ ": ".toList ++ Trouble.message .absent)
      return 2
    else return if ← compareTexts w above left right then 1 else 0
  | _, _ => return 2
where
  /-- Is something at a path? -/
  isThere {α : Type} (e : Except Trouble α) : Bool := e.toOption.isSome

/-- The names in both of two directories, in order, without those that are passed over. -/
def namesIn (w : Wanted) (d : Disk) (a b : Option Nat) : List Bytes :=
  let names (n : Option Nat) : List Bytes := ((n.map d.sortedEntries).getD []).map (·.1)
  let passed := w.options.values 'x'
  let isPassed (name : Bytes) : Bool :=
    passed.any fun p => (Pattern.ofMarked (p.map (false, ·))).accepts name
  let all := (names a ++ (names b).filter fun n => !(names a).contains n).mergeSort inOrder
  all.filter (!isPassed ·)

/-- Compares two directories, of which one may not be there. -/
def compareDirectories (w : Wanted) : Nat → Bytes → Bytes → Act Nat
  | 0, _, _ => return 0
  | n + 1, a, b => do
    let d := (← get).disk
    let one := (← Act.find a).toOption
    let other := (← Act.find b).toOption
    let mut status := 0
    for name in namesIn w d one other do
      let path := Path.under a name
      let opposite := Path.under b name
      let kind (path : Bytes) : Act (Option Kind) := do
        return (← Act.find path).toOption.map d.kind
      let isDirectory (k : Kind) : Bool := k matches .directory _
      let found ← match ← kind path, ← kind opposite with
        | some k, some l =>
          if isDirectory k && isDirectory l then
            if w.has 'r' then compareDirectories w n path opposite
            else do
              Act.put ("Common subdirectories: ".toList ++ path ++ " and ".toList ++ fed opposite)
              pure 0
          else if isDirectory k || isDirectory l then do
            Act.put ("File ".toList ++ path ++ (" is a " ++ kindName k ++ " while file ").toList
              ++ opposite ++ fed (" is a " ++ kindName l).toList)
            pure 1
          else compareFiles w (command w path opposite) path opposite
        | k, l =>
          if w.has 'N' then
            if (k.any isDirectory || l.any isDirectory) && w.has 'r' then
              compareDirectories w n path opposite
            else compareFiles w (command w path opposite) path opposite
          else do
            let where_ := if k.isSome then a else b
            Act.put ("Only in ".toList ++ where_ ++ ": ".toList ++ fed name)
            pure 1
      status := worst status found
    return status

/-- Compares what two paths lead to. A file is compared with the one of its name in a directory. -/
def comparePaths (w : Wanted) (a b : Bytes) : Act Nat := do
  let s ← get
  let isDirectory (path : Bytes) : Bool := path ≠ ['-'] && s.disk.isDirectory s.directory path
  let isAbsent (path : Bytes) : Bool :=
    path ≠ ['-'] && (s.disk.find s.directory path).toOption.isNone
  if isDirectory a && isDirectory b then
    let node (path : Bytes) : Option Nat := (s.disk.find s.directory path).toOption
    if node a = node b then return 0
    else compareDirectories w 64 a b
  else if !w.has 'N' && (isDirectory a && isAbsent b || isDirectory b && isAbsent a) then
    let absent := if isAbsent a then a else b
    Act.warn (absent ++ ": ".toList ++ Trouble.message .absent)
    return 2
  else if w.has 'N' && (isDirectory a && isAbsent b || isDirectory b && isAbsent a) then
    compareDirectories w 64 a b
  else if isDirectory a || isDirectory b then
    if a = ['-'] || b = ['-'] then Act.quit "cannot compare '-' to a directory".toList
    else if isDirectory a then compareFiles w [] (Path.under a (Path.last b)) b
    else compareFiles w [] a (Path.under b (Path.last a))
  else compareFiles w [] a b

/-! ## The program -/

/-- The names of the options. -/
def names : List (String × ValueUse × Char) :=
  [("brief", .never, 'q'), ("context", .attached, '\x03'), ("exclude", .always, 'x'),
    ("ignore-all-space", .never, 'w'), ("ignore-blank-lines", .never, 'B'),
    ("ignore-case", .never, 'i'), ("ignore-space-change", .never, 'b'),
    ("ignore-tab-expansion", .never, 'E'), ("ignore-trailing-space", .never, 'Z'),
    ("label", .always, 'L'), ("minimal", .never, 'd'), ("new-file", .never, 'N'),
    ("normal", .never, '\x04'), ("recursive", .never, 'r'),
    ("report-identical-files", .never, 's'), ("text", .never, 'a'),
    ("unified", .attached, '\x05'), ("color", .attached, '\x06')]

/-- How many lines are around differences, unless it is said. -/
def usualAround : Nat := 3

/-- The style that an option asks for, if it does. -/
def style? (o : Char × Option Bytes) : Act (Option Style) := do
  let around (text? : Option Bytes) : Act Nat := do
    match text? with
    | none => return usualAround
    | some ds =>
      if !ds.isEmpty && ds.all Char.isDigit then return Text.number ds
      else Act.misuse ("invalid context length ".toList ++ singly ds)
  match o.1 with
  | 'u' => return some (.unified usualAround)
  | 'U' | '\x05' => return some (.unified (← around o.2))
  | 'c' => return some (.context usualAround)
  | 'C' | '\x03' => return some (.context (← around o.2))
  | '\x04' => return some .normal
  | _ => return none

/-- Are styles of one kind? -/
def Style.agrees : Style → Style → Bool
  | .normal, .normal | .unified _, .unified _ | .context _, .context _ => true
  | _, _ => false

/-- A style with another one that was asked for: the greater number of lines counts. -/
def Style.with_ : Style → Style → Style
  | .unified m, .unified n => .unified (max m n)
  | .context m, .context n => .context (max m n)
  | _, s => s

/-- A style with so many lines around differences. -/
def Style.withAround (n : Nat) : Style → Style
  | .unified _ => .unified n
  | .context _ => .context n
  | .normal => .normal

/-- The arguments without the operands. -/
def optionWords : List Bytes → List Bytes → List Bytes
  | [], _ => []
  | a :: rest, [] => a :: optionWords rest []
  | a :: rest, x :: xs => if a = x then optionWords rest xs else a :: optionWords rest (x :: xs)

/-- Compares files line by line. -/
def diff : Executable := fun args => do
  Act.setFailing 2
  modify fun s => { s with usage := s.name ++ ": ".toList }
  let o ← Options.read ⟨"0123456789abBcC:dEiL:NpqrsuU:wx:Z", names, true⟩ args
  let mut style : Option Style := none
  for given in o.given do
    if let some s ← style? given then
      match style with
      | none => style := some s
      | some before =>
        if before.agrees s then style := some (before.with_ s)
        else Act.misuse "conflicting output style options".toList
  let labels := o.values 'L'
  if 2 < labels.length then Act.quit "too many file label options".toList
  match o.operands with
  | [] => do
    let name := (← get).name
    Act.misuse ("missing operand after ".toList ++ singly ((args.getLast?).getD name))
  | [only] => Act.misuse ("missing operand after ".toList ++ singly ((args.getLast?).getD only))
  | [a, b] =>
    let ds := (o.given.map (·.1)).filter Char.isDigit
    let style? := style.map fun s => if ds.isEmpty then s else s.withAround (Text.number ds)
    let w : Wanted := ⟨style?.getD .normal, o, labels, optionWords args o.operands⟩
    Act.setStatus (← comparePaths w a b)
  | _ :: _ :: extra :: _ => Act.misuse ("extra operand ".toList ++ singly extra)

end ActionTree.Sh.Differences
