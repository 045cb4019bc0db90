import ActionTree.Testing.Sh.Executable.Options

/-!
# Columns

`cut` takes parts of each line, `paste` puts lines side by side, `fold` breaks long lines.

* `Columns.readRanges`: the places that a list names.
-/

namespace ActionTree.Sh.Columns

/-- Places from 1 on, from one to another or to the end. -/
structure Range where
  first : Nat
  last : Option Nat

/-- Why a list names no places. -/
inductive RangeFault where
  | notANumber (text : Bytes)
  | tooLarge (text : Bytes)
  | zero
  | decreasing
  | noEnds
  | twoHyphens

/-- What is said of a fault in a list of fields or of characters. -/
def RangeFault.message (ofFields : Bool) : RangeFault → Bytes
  | .notANumber text =>
    (if ofFields then "invalid field value " else "invalid byte/character position ").toList
      ++ visibly text
  | .tooLarge text =>
    (if ofFields then "field number " else "byte/character offset ").toList ++ visibly text
      ++ " is too large".toList
  | .zero =>
    (if ofFields then "fields are numbered from 1"
      else "byte/character positions are numbered from 1").toList
  | .decreasing => "invalid decreasing range".toList
  | .noEnds => "invalid range with no endpoint: -".toList
  | .twoHyphens =>
    (if ofFields then "invalid field range" else "invalid byte or character range").toList

/-- The range that a part of a list is. -/
def readRange (text : Bytes) : Except RangeFault Range := do
  let number (ds : Bytes) : Except RangeFault Nat :=
    if !ds.all Char.isDigit then .error (.notANumber (ds.dropWhile Char.isDigit))
    else
      let n := Text.number ds
      if UInt64.size ≤ n + 1 then .error (.tooLarge ds) else .ok n
  match splitAt '-' text with
  | [one] =>
    let n ← number one
    if n = 0 then throw .zero else return ⟨n, some n⟩
  | [first, last] =>
    if !first.all Char.isDigit then throw (.notANumber (text.dropWhile Char.isDigit))
    let i ← if first.isEmpty then pure 1 else number first
    let j ← if last.isEmpty then pure none else (number last).map some
    if first.isEmpty && last.isEmpty then throw .noEnds
    if i = 0 then throw .zero
    match j with
    | some n => if n < i then throw .decreasing else return ⟨i, some n⟩
    | none => return ⟨i, none⟩
  | _ => throw .twoHyphens

/-- The places that a list names: ranges between commas or blanks. -/
def readRanges (text : Bytes) : Except RangeFault (List Range) :=
  let parts := (splitAt ',' text).flatMap fun p => (splitAt ' ' p).flatMap (splitAt '\t')
  parts.mapM readRange

/-- Ranges in order, where overlapping ones are joined. -/
def joined (rs : List Range) : List Range :=
  let sorted := rs.mergeSort fun a b => a.first ≤ b.first
  (sorted.foldl (fun (done : List Range) r => match done with
    | ⟨first, none⟩ :: rest => ⟨first, none⟩ :: rest
    | ⟨first, some last⟩ :: rest =>
      if r.first ≤ last then
        ⟨first, match r.last with
          | none => none
          | some n => some (max n last)⟩ :: rest
      else r :: ⟨first, some last⟩ :: rest
    | [] => [r]) []).reverse

/-- The ranges that ranges in order leave out. -/
def others (rs : List Range) : List Range :=
  go 1 rs
where
  /-- The places from one on. -/
  go (from_ : Nat) : List Range → List Range
    | [] => [⟨from_, none⟩]
    | ⟨first, none⟩ :: _ => if from_ < first then [⟨from_, some (first - 1)⟩] else []
    | ⟨first, some last⟩ :: rest =>
      (if from_ < first then [⟨from_, some (first - 1)⟩] else []) ++ go (last + 1) rest

/-- What is in a range, if the range starts inside. -/
def pick {α : Type} (xs : List α) (r : Range) : List α :=
  let rest := xs.drop (r.first - 1)
  match r.last with
  | none => rest
  | some n => rest.take (n + 1 - r.first)

/-- Some characters or fields of each line. -/
def cut : Executable := fun args => do
  let o ← Options.read ⟨"b:c:d:f:nsz",
    [("bytes", .always, 'b'), ("characters", .always, 'c'), ("fields", .always, 'f'),
      ("delimiter", .always, 'd'), ("only-delimited", .never, 's'),
      ("output-delimiter", .always, 'o'), ("complement", .never, 'k'),
      ("zero-terminated", .never, 'z')], true⟩ args
  for text in o.values 'd' do
    if 1 < text.length then Act.misuse "the delimiter must be a single character".toList
  let ofFields := o.has 'f'
  let list ← match o.values 'b' ++ o.values 'c' ++ o.values 'f' with
    | [] => Act.misuse "you must specify a list of bytes, characters, or fields".toList
    | [list] => pure list
    | _ => Act.misuse "only one list may be specified".toList
  if !ofFields && o.has 'd' then
    Act.misuse "an input delimiter may be specified only when operating on fields".toList
  if !ofFields && o.has 's' then
    Act.misuse ("suppressing non-delimited lines makes sense\n\tonly when operating on "
      ++ "fields").toList
  let ranges ← match readRanges list with
    | .ok rs => pure (if o.has 'k' then others (joined rs) else joined rs)
    | .error e => Act.misuse (e.message ofFields)
  let separator := if o.has 'z' then '\x00' else '\n'
  let delimiter := ((o.value? 'd').getD ['\t']).headD '\x00'
  let between := (o.value? 'o').getD (if ofFields then [delimiter] else [])
  let line (l : Bytes) : Option Bytes :=
    if !ofFields then
      some (between.intercalate ((ranges.map (pick l)).filter (!·.isEmpty)))
    else if delimiter = separator then none
    else if l.contains delimiter then
      some (between.intercalate (ranges.flatMap (pick (splitAt delimiter l))))
    else if o.has 's' then none
    else some l
  for arg in Act.orInput o.operands do
    match ← Act.read arg with
    | .error t => do
      Act.complain (Act.unreadable arg t)
      if t = .badDescriptor then Act.complain (Act.unreadable arg t)
    | .ok text =>
      let ls := linesBy separator text
      if ofFields && delimiter = separator then
        Act.put (between.intercalate (ranges.flatMap (pick ls)) ++ [separator])
      else Act.put ((ls.filterMap line).flatMap fun l => l ++ [separator])

/-! ## Lines side by side -/

/-- The delimiters that a text describes; an empty one stands between nothing. -/
def delimiters : Bytes → List Bytes
  | '\\' :: c :: rest =>
    let d : Bytes := match c with
      | '0' => []
      | 'n' => ['\n']
      | 't' => ['\t']
      | 'b' => ['\x08']
      | 'f' => ['\x0c']
      | 'r' => ['\r']
      | 'v' => ['\x0b']
      | c => [c]
    d :: delimiters rest
  | c :: rest => [c] :: delimiters rest
  | [] => []

/-- Texts with delimiters between them, which take turns. -/
def joinWith (ds : List Bytes) (texts : List Bytes) : Bytes :=
  let n := ds.length
  let between (i : Nat) : Bytes := if n = 0 then [] else ds.getD (i % n) []
  (texts.zipIdx.map fun (t, i) => if i = 0 then t else between (i - 1) ++ t).flatten

/-- Rows of so many columns, of which short ones are filled up. -/
def rows (count : Nat) (columns : List (List Bytes)) : List (List Bytes) :=
  let arrays := columns.map List.toArray
  (List.range count).map fun i => arrays.map fun c => c.getD i []

/-- The lines of files side by side, or those of each file in one line. -/
def paste : Executable := withOptions "d:sz"
  [("delimiters", .always, 'd'), ("serial", .never, 's'), ("zero-terminated", .never, 'z')]
  fun o => do
  let text := (o.value? 'd').getD ['\t']
  if (text.reverse.takeWhile (· = '\\')).length % 2 = 1 then
    Act.quit ("delimiter list ends with an unescaped backslash: ".toList ++ text)
  let ds := delimiters text
  let separator := if o.has 'z' then '\x00' else '\n'
  let mut files : List (Bytes × List Bytes) := []
  for arg in Act.orInput o.operands do
    match ← Act.read arg with
    | .ok text => files := (arg, linesBy separator text) :: files
    | .error t =>
      if o.has 's' then Act.complain (Act.unreadable arg t) else Act.quit (Act.unreadable arg t)
  let columns := files.reverse
  if o.has 's' then
    Act.put (columns.flatMap fun c => joinWith ds c.2 ++ [separator])
  else
    let inputs := (columns.filter (·.1 = ['-'])).length
    let ofInput := (columns.find? (·.1 = ['-'])).elim [] (·.2)
    let shares := if inputs ≤ 1 then columns.map (·.2)
      else
        let array := ofInput.toArray
        let share (k : Nat) : List Bytes :=
          (List.range ((ofInput.length + inputs - 1 - k) / inputs)).map fun i =>
            array.getD (i * inputs + k) []
        let numbered := columns.foldl (fun (done, k) c =>
          if c.1 = ['-'] then (share k :: done, k + 1) else (c.2 :: done, k)) ([], 0)
        numbered.1.reverse
    let count := (shares.map List.length).foldl max 0
    Act.put ((rows count shares).flatMap fun r => joinWith ds r ++ [separator])

/-! ## Breaking lines -/

/-- The column behind a character. -/
def columnBehind (inBytes : Bool) (column : Nat) (c : Char) : Nat :=
  if inBytes then column + 1
  else match c with
    | '\x08' => column - 1
    | '\r' => 0
    | '\t' => column + 8 - column % 8
    | _ => column + 1

/-- A line in pieces that are not wider than so many columns, if it can be, given the piece up to
here in reverse. -/
def pieces (inBytes atBlanks : Bool) (width : Nat) : Nat → Bytes → Nat → Bytes → List Bytes
  | 0, current, _, rest => [current.reverse ++ rest]
  | _, current, _, [] => if current.isEmpty then [] else [current.reverse]
  | n + 1, current, column, c :: rest =>
    let next := columnBehind inBytes column c
    if width < next && !current.isEmpty then
      let tail := current.takeWhile (!isBreak ·)
      if atBlanks && tail.length < current.length then
        let kept := current.drop tail.length
        let moved := tail.reverse
        kept.reverse :: pieces inBytes atBlanks width n tail
          (moved.foldl (columnBehind inBytes) 0) (c :: rest)
      else current.reverse :: pieces inBytes atBlanks width n [] 0 (c :: rest)
    else pieces inBytes atBlanks width n (c :: current) next rest
where
  /-- The blanks that a line may be broken at. -/
  isBreak (c : Char) : Bool := c = ' ' || c = '\t'

/-- Lines that are not wider than so many columns. -/
def fold : Executable := fun args => do
  let isWidth (a : Bytes) : Bool := match a with
    | '-' :: c :: _ => c.isDigit
    | _ => false
  let args := args.flatMap fun a => if isWidth a then ["-w".toList, a.tail] else [a]
  let o ← Options.read ⟨"bsw:",
    [("bytes", .never, 'b'), ("spaces", .never, 's'), ("width", .always, 'w')], true⟩ args
  let width ← match o.value? 'w' with
    | none => pure 80
    | some text => match Text.natural? UInt64.size text with
      | some (n + 1) => pure (n + 1)
      | some 0 =>
        Act.quit ("invalid number of columns: ".toList ++ visibly text
          ++ ": Numerical result out of range".toList)
      | none => Act.quit ("invalid number of columns: ".toList ++ visibly text)
  for (_, text) in ← Act.readAll Act.unreadable o.operands do
    let whole := (linesOf text).flatMap fun l =>
      ['\n'].intercalate (pieces (o.has 'b') (o.has 's') width (2 * l.length + 2) [] 0 l) ++ ['\n']
    Act.put (if text.getLast?.any (· ≠ '\n') then whole.dropLast else whole)

end ActionTree.Sh.Columns
