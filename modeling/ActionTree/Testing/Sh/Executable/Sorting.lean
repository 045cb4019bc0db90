import ActionTree.Testing.Sh.Executable.Options

/-!
# Order of lines

`sort` puts lines in order, `uniq` and `comm` compare lines that are in order.

* `Sorting.Key.compare`: the order of two lines by a key.
* `Sorting.inOrder`: the order of two lines by all keys.
-/

namespace ActionTree.Sh.Sorting

/-! ## Orders -/

/-- The order of two texts by their bytes. -/
def bytewise (a b : Bytes) : Ordering :=
  if a = b then .eq else if inOrder a b then .lt else .gt

/-- A decimal number at the start of a text: its sign, the digits before the point without zeros in
front, and those behind it without zeros at the end. -/
structure Numeral where
  negative : Bool
  whole : Nat
  fraction : Bytes

/-- Is the character a blank? -/
def isBlank (c : Char) : Bool := c = ' ' || c = '\t' || c = '\n'

/-- The number at the start of a text, 0 if there is none, and the text behind it. -/
def Numeral.read (cs : Bytes) : Numeral × Bytes :=
  let cs := cs.dropWhile isBlank
  let (negative, ds) : Bool × Bytes := match cs with
    | '-' :: ds => (true, ds)
    | ds => (false, ds)
  let whole := ds.takeWhile Char.isDigit
  let rest := ds.drop whole.length
  let (fraction, rest) : Bytes × Bytes := match rest with
    | '.' :: more => (more.takeWhile Char.isDigit, more.dropWhile Char.isDigit)
    | rest => ([], rest)
  let fraction := (fraction.reverse.dropWhile (· = '0')).reverse
  let n := Text.number whole
  (⟨negative && (n ≠ 0 || !fraction.isEmpty), n, fraction⟩, rest)

/-- The order of two numbers. -/
def Numeral.compare (a b : Numeral) : Ordering :=
  let sizes := (Ord.compare a.whole b.whole).then (bytewise a.fraction b.fraction)
  match a.negative, b.negative with
  | true, true => sizes.swap
  | true, false => .lt
  | false, true => .gt
  | false, false => sizes

/-- The order by numbers with units behind them. -/
def byUnits (a b : Bytes) : Ordering :=
  let read (cs : Bytes) : Numeral × Int :=
    let (n, rest) := Numeral.read cs
    let isZero := n.whole = 0 && n.fraction.isEmpty
    let unit := match rest with
      | c :: _ => ("KMGTPEZYRQ".toList.idxOf? (if c = 'k' then 'K' else c)).elim 0 (· + 1)
      | [] => 0
    (n, if isZero then 0 else if n.negative then -(unit : Int) else unit)
  let (m, i) := read a
  let (n, j) := read b
  if m.negative ≠ n.negative then m.compare n else (Ord.compare i j).then (m.compare n)

/-- The order by numbers with a point and an exponent; what is no number comes first. -/
def byPoint (a b : Bytes) : Ordering :=
  let key (cs : Bytes) : Nat × Int :=
    match Point.read? (cs.dropWhile isBlank) with
    | none => (0, 0)
    | some f =>
      if f.value.isUndefined then (1, 0)
      else (2, if f.value.negative then -((Format.double.units f.value.code : Nat) : Int)
        else (Format.double.units f.value.code : Nat))
  let (i, x) := key a
  let (j, y) := key b
  (Ord.compare i j).then (Ord.compare x y)

/-- The number of a month by its first letters, 0 for others. -/
def month (cs : Bytes) : Nat :=
  let name := ((cs.dropWhile isBlank).take 3).map Char.toUpper
  (["JAN", "FEB", "MAR", "APR", "MAY", "JUN", "JUL", "AUG", "SEP", "OCT", "NOV",
    "DEC"].idxOf? (String.ofList name)).elim 0 (· + 1)

/-- The rank of a character between numbers of a version: a tilde comes before the end, letters come
before the rest. -/
def versionRank : Option Char → Int
  | none => 0
  | some '~' => -1
  | some c => if c.isDigit then 0 else if c.isAlpha then c.toNat else c.toNat + 256

/-- The order of texts without digits at their starts, and what is behind these parts. -/
def versionWords : Nat → Bytes → Bytes → Ordering × Bytes × Bytes
  | 0, a, b => (.eq, a, b)
  | n + 1, a, b =>
    let isWord (cs : Bytes) : Bool := cs.head?.any (!·.isDigit)
    if isWord a || isWord b then
      match Ord.compare (versionRank a.head?) (versionRank b.head?) with
      | .eq => versionWords n a.tail b.tail
      | o => (o, a, b)
    else (.eq, a, b)

/-- The order of parts of versions: numbers and texts take turns. -/
def versionParts : Nat → Bytes → Bytes → Ordering
  | 0, _, _ => .eq
  | n + 1, a, b =>
    if a.isEmpty && b.isEmpty then .eq
    else match versionWords (a.length + b.length + 1) a b with
      | (.eq, a, b) =>
        let i := Text.number (a.takeWhile Char.isDigit)
        let j := Text.number (b.takeWhile Char.isDigit)
        (Ord.compare i j).then
          (versionParts n (a.dropWhile Char.isDigit) (b.dropWhile Char.isDigit))
      | (o, _, _) => o

/-- A name without the endings behind points that start with a letter. -/
def withoutEndings (cs : Bytes) : Bytes :=
  go cs.reverse [] cs.reverse
where
  /-- The rest of a name in reverse, the characters of an ending, and the best result up to now. -/
  go : Bytes → Bytes → Bytes → Bytes
    | [], _, best => best.reverse
    | c :: rest, ending, best =>
      if c = '.' then
        if ending.head?.any fun d => d.isAlpha || d = '~' then go rest [] rest
        else best.reverse
      else if c.isAlphanum || c = '~' then go rest (c :: ending) best
      else best.reverse

/-- The order of names with versions in them. -/
def byVersion (a b : Bytes) : Ordering :=
  let parts (a b : Bytes) : Ordering := versionParts (a.length + b.length + 1) a b
  let hidden (cs : Bytes) : Nat :=
    if cs.isEmpty then 0 else if cs = ['.'] then 1 else if cs = ['.', '.'] then 2
    else if cs.head? = some '.' then 3 else 4
  (Ord.compare (hidden a) (hidden b)).then
    ((parts (withoutEndings a) (withoutEndings b)).then (parts a b))

/-! ## Keys -/

/-- What a key compares: from a place in a field up to a place in another one. -/
structure Key where
  field : Nat
  start : Nat
  endField : Option Nat
  stop : Nat
  /-- The letters of how it is compared, and those that only count for its start or its end. -/
  letters : List Char
  startBlanks : Bool
  endBlanks : Bool

namespace Key

/-- The text behind so many fields. -/
def skipFields (separator : Option Char) : Nat → Bytes → Bytes
  | 0, cs => cs
  | n + 1, cs =>
    match separator with
    | some t => skipFields separator n ((cs.dropWhile (· ≠ t)).drop 1)
    | none => skipFields separator n ((cs.dropWhile isBlank).dropWhile (!isBlank ·))

/-- The length of a text up to the end of a key. -/
def limit (separator : Option Char) (k : Key) (cs : Bytes) : Nat :=
  match k.endField with
  | none => cs.length
  | some field =>
    if k.stop = 0 then
      let front := skipFields separator (field - 1) cs
      let rest := match separator with
        | some t => front.dropWhile (· ≠ t)
        | none => (front.dropWhile isBlank).dropWhile (!isBlank ·)
      cs.length - rest.length
    else
      let front := skipFields separator (field - 1) cs
      let front := if k.endBlanks then front.dropWhile isBlank else front
      min cs.length (cs.length - front.length + k.stop)

/-- The part of a line that a key compares. -/
def part (separator : Option Char) (k : Key) (cs : Bytes) : Bytes :=
  let front := skipFields separator (k.field - 1) cs
  let front := if k.startBlanks then front.dropWhile isBlank else front
  let front := front.drop (k.start - 1)
  let skipped := cs.length - front.length
  front.take (limit separator k cs - skipped)

/-- The order of two parts. -/
def comparePart (k : Key) (a b : Bytes) : Ordering :=
  let has (c : Char) : Bool := k.letters.contains c
  let keeps (c : Char) : Bool :=
    if has 'd' then c.isAlphanum || c = ' ' || c = '\t' else if has 'i' then isPrintable c else true
  let plain (cs : Bytes) : Bytes :=
    let cs := if has 'd' || has 'i' then cs.filter keeps else cs
    if has 'f' then cs.map Char.toUpper else cs
  let o :=
    if has 'n' then (Numeral.read a).1.compare (Numeral.read b).1
    else if has 'g' then byPoint a b
    else if has 'h' then byUnits a b
    else if has 'M' then Ord.compare (month a) (month b)
    else if has 'V' then byVersion (plain a) (plain b)
    else bytewise (plain a) (plain b)
  if has 'r' then o.swap else o

/-- The order of two lines by a key. -/
def compare (separator : Option Char) (k : Key) (a b : Bytes) : Ordering :=
  k.comparePart (k.part separator a) (k.part separator b)

end Key

/-- Why a text is no key. -/
abbrev Fault := Bytes

/-- The letters of orders. -/
def orderLetters : List Char := "bdfghiMnRrV".toList

/-- A count at the start of a text. -/
def countAt (what : String) (cs : Bytes) : Except Fault (Nat × Bytes) :=
  let ds := cs.takeWhile Char.isDigit
  if ds.isEmpty then
    .error ((what ++ ": invalid count at start of ").toList ++ visibly cs)
  else .ok (Text.number ds, cs.drop ds.length)

/-- The key that a text describes. -/
def readKey (text : Bytes) : Except Fault Key := do
  let bad {α : Type} (what : String) : Except Fault α :=
    .error ((what ++ ": invalid field specification ").toList ++ visibly text)
  let (field, rest) ← countAt "invalid number at field start" text
  if field = 0 then bad "field number is zero"
  let (start, rest) ← match rest with
    | '.' :: more => do
      let (n, rest) ← countAt "invalid number after '.'" more
      if n = 0 then bad "character offset is zero" else pure (n, rest)
    | rest => pure (1, rest)
  let first := rest.takeWhile orderLetters.contains
  match rest.drop first.length with
  | [] => return ⟨field, start, none, 0, first.filter (· ≠ 'b'), first.contains 'b', false⟩
  | ',' :: more =>
    let (endField, rest) ← countAt "invalid number after ','" more
    if endField = 0 then bad "field number is zero"
    let (stop, rest) ← match rest with
      | '.' :: more => countAt "invalid number after '.'" more
      | rest => pure (0, rest)
    let second := rest.takeWhile orderLetters.contains
    if !(rest.drop second.length).isEmpty then bad "stray character in field spec"
    return ⟨field, start, some endField, stop, (first ++ second).filter (· ≠ 'b'),
      first.contains 'b', second.contains 'b'⟩
  | _ => bad "stray character in field spec"

/-- How lines are put in order. -/
structure Rule where
  separator : Option Char
  keys : List Key
  reversed : Bool
  unique : Bool
  stable : Bool

/-- The order of two lines by the keys, and by their bytes if these do not tell them apart. -/
def Rule.compare (r : Rule) (a b : Bytes) : Ordering :=
  let byKeys := r.keys.foldl (fun o k => o.then (k.compare r.separator a b)) .eq
  if r.unique || r.stable then (if r.keys.isEmpty then whole else byKeys)
  else byKeys.then whole
where
  /-- The order by all bytes. -/
  whole : Ordering := if r.reversed then (bytewise a b).swap else bytewise a b

/-- May a line come before another one? -/
def Rule.le (r : Rule) (a b : Bytes) : Bool := (r.compare a b).isLE

/-- Lines of which neighbours that do not differ count once. -/
def once (same : Bytes → Bytes → Bool) (ls : List Bytes) : List Bytes :=
  (ls.foldl (fun done l => match done with
    | [] => [l]
    | d :: _ => if same d l then done else l :: done) []).reverse

/-- The first line that is not behind the one before it, with its number. -/
def disorder? (r : Rule) : Nat → List Bytes → Option (Nat × Bytes)
  | n, a :: b :: rest =>
    let o := r.compare a b
    if o = .gt || (r.unique && o = .eq) then some (n + 1, b) else disorder? r (n + 1) (b :: rest)
  | _, _ => none

/-- The old way to name keys, by fields counted from 0, as options. -/
def oldKeys (args : List Bytes) : List Bytes :=
  let number? (cs : Bytes) : Option Nat :=
    let ds := cs.takeWhile Char.isDigit
    if ds.isEmpty then none else some (Text.number ds)
  args.flatMap fun a => match a with
    | '+' :: cs => match number? cs with
      | some n =>
        let rest := cs.dropWhile Char.isDigit
        ["-k".toList, decimal (n + 1 : Nat) ++ rest]
      | none => [a]
    | a => [a]

/-- How the options say that lines are put in order. -/
def ruleOf (o : Options) : Act Rule := do
  let letters := (o.given.map (·.1)).filter fun c => orderLetters.contains c
  let own := letters.filter fun c => c ≠ 'b' && c ≠ 'r'
  let mut given : List Key := []
  for text in o.values 'k' do
    match readKey text with
    | .ok k =>
      let plain := k.letters.isEmpty && !k.startBlanks && !k.endBlanks
      let k := if plain then { k with
          letters := letters.filter (· ≠ 'b')
          startBlanks := letters.contains 'b'
          endBlanks := letters.contains 'b' }
        else k
      given := given ++ [k]
    | .error what => Act.quit what
  let usual : Key := ⟨1, 1, none, 0, letters.filter (· ≠ 'b'), letters.contains 'b',
    letters.contains 'b'⟩
  let keys := if given.isEmpty && (!own.isEmpty || letters.contains 'b') then [usual] else given
  for k in keys do
    let kinds := "dghMnV".toList.filter fun c => k.letters.contains c && (c ≠ 'd' || k.letters.any
      "ghMn".toList.contains)
    if 1 < kinds.length then
      Act.quit ("options '-".toList ++ kinds ++ "' are incompatible".toList)
  let separator ← match o.value? 't' with
    | none => pure none
    | some [] => Act.quit "empty tab".toList
    | some [c] => pure (some c)
    | some ['\\', '0'] => pure (some '\x00')
    | some cs => Act.quit ("multi-character tab ".toList ++ visibly cs)
  return ⟨separator, keys, letters.contains 'r', o.has 'u', o.has 's'⟩

/-- The lines of all files in order. -/
def sort : Executable := fun args => do
  Act.setFailing 2
  let o ← Options.read ⟨"bcCdfghik:mMno:rRsS:t:T:uVy:z",
    [("ignore-leading-blanks", .never, 'b'), ("check", .attached, 'c'),
      ("compress-program", .always, '\x03'), ("debug", .never, '\x04'),
      ("dictionary-order", .never, 'd'), ("ignore-case", .never, 'f'),
      ("files0-from", .always, '\x05'), ("general-numeric-sort", .never, 'g'),
      ("ignore-nonprinting", .never, 'i'), ("key", .always, 'k'), ("merge", .never, 'm'),
      ("month-sort", .never, 'M'), ("numeric-sort", .never, 'n'),
      ("human-numeric-sort", .never, 'h'), ("version-sort", .never, 'V'),
      ("random-sort", .never, 'R'), ("random-source", .always, '\x06'), ("output", .always, 'o'),
      ("reverse", .never, 'r'), ("stable", .never, 's'), ("batch-size", .always, '\x07'),
      ("buffer-size", .always, 'S'), ("field-separator", .always, 't'),
      ("temporary-directory", .always, 'T'), ("unique", .never, 'u'),
      ("zero-terminated", .never, 'z'), ("parallel", .always, '\x08')], true⟩ (oldKeys args)
  let r ← ruleOf o
  let separator := if o.has 'z' then '\x00' else '\n'
  if let (some c, _ :: extra :: _) := (o.last? "cC", o.operands) then
    Act.quit ("extra operand ".toList ++ visibly extra ++ " not allowed with -".toList ++ [c])
  let mut read := []
  for arg in Act.orInput o.operands do
    match ← Act.read arg with
    | .ok text => read := linesBy separator text :: read
    | .error .isDirectory =>
      Act.quit ("read failed: ".toList ++ Act.unreadable arg .isDirectory)
    | .error .badDescriptor =>
      Act.quit ("stat failed: ".toList ++ Act.unreadable arg .badDescriptor)
    | .error t => Act.quit ("cannot read: ".toList ++ Act.unreadable arg t)
  let files := read.reverse
  match o.last? "cC" with
  | some c =>
    match disorder? r 1 files.flatten with
    | none => pure ()
    | some (n, line) => do
      if c = 'c' then
        Act.warn ((Act.orInput o.operands).headD [] ++ ':' :: decimal n ++ ": disorder: ".toList
          ++ line)
      Act.finish 1
  | none =>
    let sorted :=
      if o.has 'm' then files.foldl (fun a b => a.merge b r.le) []
      else files.flatten.mergeSort r.le
    let kept := if r.unique then once (fun a b => r.compare a b = .eq) sorted else sorted
    let text := kept.flatMap fun l => l ++ [separator]
    match o.value? 'o', (← get).outputTrouble with
    | none, some t =>
      if !text.isEmpty then
        let what := if t = .badDescriptor then ": ".toList ++ t.message else []
        Act.warn ("fflush failed: 'standard output': ".toList ++ t.message)
        Act.quit ("write error".toList ++ what)
    | none, none => Act.put text
    | some path, _ =>
      match ← Act.writeFile false path text with
      | none => pure ()
      | some t => Act.quit ("open failed: ".toList ++ Act.unreadable path t)

/-! ## Lines that are in order -/

/-- Neighbouring lines that do not differ, as the first of them with all of them. -/
def groups (same : Bytes → Bytes → Bool) (ls : List Bytes) : List (List Bytes) :=
  let joined := ls.foldl (fun (done : List (List Bytes)) l => match done with
    | (m :: ms) :: rest => if same m l then (m :: l :: ms) :: rest else [l] :: (m :: ms) :: rest
    | rest => [l] :: rest) []
  joined.reverse.map fun g => match g with
    | m :: ms => m :: ms.reverse
    | [] => []

/-- The value of an option that is a number. -/
def number (o : Options) (c : Char) (what : String) : Act Nat := do
  match o.value? c with
  | none => return 0
  | some text => match Text.natural? UInt64.size text with
    | some n => return n
    | none => Act.quit (text ++ (": invalid number of " ++ what).toList)

/-- Where empty lines stand around groups of lines. -/
structure Gaps where
  first : Bool
  between : Bool
  last : Bool

/-- The gaps by their names. -/
def gapsNamed : List (String × Gaps) :=
  [("none", ⟨false, false, false⟩), ("separate", ⟨false, true, false⟩),
    ("prepend", ⟨true, true, false⟩), ("append", ⟨false, true, true⟩), ("both", ⟨true, true, true⟩)]

/-- The gaps that the value of an option names, of which only some are known. -/
def gapsOf (option usual : String) (known : List String) (value : Option Bytes) : Act Gaps := do
  let text := value.getD usual.toList
  match gapsNamed.find? fun g => g.1.toList = text && known.contains g.1 with
  | some (_, g) => return g
  | none => do
    Act.warn ("invalid argument ".toList ++ visibly text ++ (" for '--" ++ option ++ "'").toList)
    Act.putMessage ("Valid arguments are:\n".toList
      ++ known.flatMap fun w => ("  - '" ++ w ++ "'\n").toList)
    Act.refer

/-- Groups of lines with gaps around them. -/
def withGaps (g : Gaps) (separator : Char) (groups : List Bytes) : Bytes :=
  let gap (b : Bool) : Bytes := if b then [separator] else []
  if groups.isEmpty then []
  else gap g.first ++ (gap g.between).intercalate groups ++ gap g.last

/-- The lines of a file, neighbouring equal ones once. -/
def uniq : Executable := withOptions "0123456789cdDf:is:uw:z"
  [("count", .never, 'c'), ("repeated", .never, 'd'), ("all-repeated", .attached, 'D'),
    ("group", .attached, 'g'), ("ignore-case", .never, 'i'), ("unique", .never, 'u'),
    ("skip-fields", .always, 'f'), ("skip-chars", .always, 's'), ("check-chars", .always, 'w'),
    ("zero-terminated", .never, 'z')] fun o => do
  let fields ← number o 'f' "fields to skip"
  let skipped ← number o 's' "bytes to skip"
  let most ← number o 'w' "bytes to compare"
  let gaps ← if o.has 'g' then
      gapsOf "group" "separate" ["prepend", "append", "separate", "both"] (o.value? 'g')
    else gapsOf "all-repeated" "none" ["none", "prepend", "separate"] (o.value? 'D')
  if let some extra := o.operands[2]? then Act.misuse ("extra operand ".toList ++ visibly extra)
  if o.has 'g' && (o.last? "cdDu").isSome then
    Act.misuse "--group is mutually exclusive with -c/-d/-D/-u".toList
  if o.has 'c' && o.has 'D' then
    Act.misuse "printing all duplicated lines and repeat counts is meaningless".toList
  let separator := if o.has 'z' then '\x00' else '\n'
  let arg := o.operands.headD ['-']
  let text ← match ← Act.read arg with
    | .ok text => pure text
    | .error t =>
      if t = .isDirectory || arg = ['-'] then
        Act.quit ("error reading ".toList ++ quotedName arg ++ ": ".toList ++ t.message)
      else Act.quit (Act.unreadable arg t)
  let part (l : Bytes) : Bytes :=
    let rest := (Key.skipFields none fields l).drop skipped
    let rest := if o.has 'w' then rest.take most else rest
    if o.has 'i' then rest.map Char.toUpper else rest
  let wanted := (groups (fun a b => part a = part b) (linesBy separator text)).filter fun g =>
    (!(o.last? "dD").isSome || 1 < g.length) && (!o.has 'u' || g.length = 1)
  let shown (g : List Bytes) : Bytes :=
    (if o.has 'D' || o.has 'g' then g else g.take 1).flatMap fun l =>
      (if o.has 'c' then pad false 7 (decimal g.length) ++ [' '] else []) ++ l ++ [separator]
  let out := withGaps gaps separator (wanted.map shown)
  match o.operands[1]? with
  | none => Act.put out
  | some path =>
    if let some t ← Act.writeFile false path out then Act.quit (Act.unreadable path t)

/-- Tells apart the lines that only one of two files has from those that both have. -/
def compareLines (show_ : Nat → Bytes → Bytes) : Nat → List Bytes → List Bytes → Bytes → Bytes
  | 0, _, _, done => done.reverse
  | _, [], [], done => done.reverse
  | n + 1, a :: as, [], done => compareLines show_ n as [] ((show_ 1 a).reverseAux done)
  | n + 1, [], b :: bs, done => compareLines show_ n [] bs ((show_ 2 b).reverseAux done)
  | n + 1, a :: as, b :: bs, done =>
    match bytewise a b with
    | .eq => compareLines show_ n as bs ((show_ 3 a).reverseAux done)
    | .lt => compareLines show_ n as (b :: bs) ((show_ 1 a).reverseAux done)
    | .gt => compareLines show_ n (a :: as) bs ((show_ 2 b).reverseAux done)

/-- The lines of two files in three columns: of the first, of the second and of both. -/
def comm : Executable := withOptions "123z"
  [("check-order", .never, 'c'), ("nocheck-order", .never, 'n'),
    ("output-delimiter", .always, 'd'), ("total", .never, 't'), ("zero-terminated", .never, 'z')]
  fun o => do
  match o.operands with
  | [] => Act.misuse "missing operand".toList
  | [only] => Act.misuse ("missing operand after ".toList ++ visibly only)
  | _ :: _ :: extra :: _ => Act.misuse ("extra operand ".toList ++ visibly extra)
  | [a, b] =>
    let separator := if o.has 'z' then '\x00' else '\n'
    let read (arg : Bytes) : Act (List Bytes) := do
      match ← Act.read arg with
      | .ok text => return linesBy separator text
      | .error t => Act.quit (Act.unreadable arg t)
    let first ← read a
    let second ← read b
    let column := (o.value? 'd').getD ['\t']
    let before (letters : List Char) : Bytes :=
      letters.flatMap fun c => if o.has c then [] else column
    let show_ (which : Nat) (l : Bytes) : Bytes :=
      match which with
      | 1 => if o.has '1' then [] else l ++ [separator]
      | 2 => if o.has '2' then [] else before ['1'] ++ l ++ [separator]
      | _ => if o.has '3' then [] else before ['1', '2'] ++ l ++ [separator]
    Act.put (compareLines show_ (first.length + second.length) first second [])
    let isSorted (ls : List Bytes) : Bool := (disorder? ⟨none, [], false, false, false⟩ 1 ls).isNone
    if !o.has 'n' then
      let sorted := [(1, isSorted first), (2, isSorted second)]
      for (n, ok) in sorted do
        if !ok then
          Act.complain ("file ".toList ++ decimal (n : Nat) ++ " is not in sorted order".toList)
      if sorted.any (!·.2) then Act.complain "input is not in sorted order".toList

end ActionTree.Sh.Sorting
