import ActionTree.Testing.Sh.Executable.Options

/-!
# Bytes in figures

`od` prints bytes as numbers or names, so many in a row, with the place of the first of them in
front. Rows with several displays show the same bytes below one another.

* `Dump.rows`: the rows of some bytes.
-/

namespace ActionTree.Sh.Dump

/-- What bytes are shown as. -/
inductive Figure where
  | named
  | char
  | octal
  | signed
  | unsigned
  | hex
  deriving DecidableEq

/-- A display: what bytes are shown as, how many of them together, and whether the row ends with
them as text. -/
structure Display where
  figure : Figure
  size : Nat
  trailed : Bool

namespace Display

/-- The width of a figure. -/
def width (d : Display) : Nat :=
  match d.figure with
  | .named | .char => 3
  | .octal => (8 * d.size + 2) / 3
  | .hex => 2 * d.size
  | .unsigned => (toString (Nat.pow 256 d.size - 1)).length
  | .signed => (toString (Nat.pow 256 d.size / 2)).length + 1

/-- The names of the first characters. -/
def names : List String :=
  ["nul", "soh", "stx", "etx", "eot", "enq", "ack", "bel", "bs", "ht", "nl", "vt", "ff", "cr", "so",
    "si", "dle", "dc1", "dc2", "dc3", "dc4", "nak", "syn", "etb", "can", "em", "sub", "esc", "fs",
    "gs", "rs", "us", "sp"]

/-- A number with so many digits of a base at least. -/
def digits (base least n : Nat) : Bytes :=
  let ds := Nat.toDigits base n
  List.replicate (least - ds.length) '0' ++ ds

/-- Bytes, of which the first one counts least, as they are shown. -/
def text (d : Display) (cs : Bytes) : Bytes :=
  let n := cs.foldr (fun c n => n * 256 + c.toNat) 0
  let c := cs.headD '\x00'
  match d.figure with
  | .named =>
    let code := n % 128
    if code = 127 then "del".toList
    else match names[code]? with
      | some name => name.toList
      | none => [Char.ofNat code]
  | .char =>
    if c = '\x00' then ['\\', '0']
    else if isPrintable c then [c]
    else if '\x07' ≤ c && c ≤ '\r' then escapeText c
    else digits 8 3 n
  | .octal => digits 8 d.width n
  | .hex => digits 16 d.width n
  | .unsigned => decimal n
  | .signed =>
    let all := Nat.pow 256 d.size
    if n < all / 2 then decimal n else '-' :: decimal (all - n : Nat)

/-- Bytes in pieces of some size. The last one is filled up with zeros. -/
def pieces (size : Nat) : Nat → Bytes → List Bytes
  | 0, _ => []
  | n + 1, cs =>
    if cs.isEmpty then []
    else
      let piece := cs.take size
      (piece ++ List.replicate (size - piece.length) '\x00') :: pieces size n (cs.drop size)

/-- A row of bytes in a display, which is as wide as the widest one: `spare` columns are between the
figures of a whole row of so many bytes. -/
def row (d : Display) (perRow spare : Nat) (cs : Bytes) : Bytes :=
  let count := perRow / d.size
  let shown := pieces d.size (cs.length + 1) cs
  let cells := shown.zipIdx.flatMap fun (piece, k) =>
    let i := count - k
    pad false (spare * i / count - spare * (i - 1) / count + d.width) (d.text piece)
  if d.trailed then
    let blank := count - shown.length
    let text := cs.map fun c => if isPrintable c then c else '.'
    cells ++ List.replicate (blank * d.width + spare * blank / count) ' '
      ++ "  >".toList ++ text ++ ['<']
  else cells

end Display

/-! ## Rows -/

/-- How the place of a row is shown: the base and the number of digits. -/
structure Radix where
  base : Nat
  digits : Nat

/-- The place of a row. -/
def Radix.text (r : Option Radix) (place : Nat) : Bytes :=
  match r with
  | none => []
  | some r => Display.digits r.base r.digits place

/-- How bytes are shown. -/
structure Layout where
  radix : Option Radix
  displays : List Display
  perRow : Nat
  /-- Are rows shown that are the same as the one before? -/
  verbose : Bool

namespace Layout

/-- How many columns the displays of a row need behind the place. -/
def width (l : Layout) : Nat :=
  (l.displays.map fun d => (d.width + 1) * (l.perRow / d.size)).foldl max 0

/-- The rows of the bytes of one place, one for each display. -/
def lines (l : Layout) (place : Nat) (cs : Bytes) : Bytes :=
  let label := Radix.text l.radix place
  l.displays.zipIdx.flatMap fun (d, k) =>
    let spare := l.width - d.width * (l.perRow / d.size)
    let front := if k = 0 then label else List.replicate label.length ' '
    fed (front ++ d.row l.perRow spare cs)

end Layout

/-- The row before, and whether it stood for others. -/
structure Before where
  bytes : Bytes
  repeated : Bool

/-- The rows of some bytes from a place on, behind texts in reverse. A star stands for whole rows
that are the same as the one before. -/
def rows (l : Layout) : Nat → Nat → Option Before → List Bytes → Bytes → List Bytes
  | 0, _, _, done, _ => done.reverse
  | n + 1, place, before, done, cs =>
    if cs.isEmpty then done.reverse
    else
      let (piece, rest) := cs.splitAt l.perRow
      let size := piece.length
      let same := !l.verbose && size = l.perRow && before.any (·.bytes = piece)
      if same then
        let done := if before.any (·.repeated) then done else fed ['*'] :: done
        rows l n (place + size) (some ⟨piece, true⟩) done rest
      else rows l n (place + size) (some ⟨piece, false⟩) (l.lines place piece :: done) rest

/-! ## Options -/

/-- The displays that a text asks for, or what is wrong with it. -/
def displays (whole : Bytes) : Nat → Bytes → Except Bytes (List Display)
  | 0, _ => .ok []
  | n + 1, cs =>
    let invalid (c : Char) : Except Bytes (List Display) :=
      .error ("invalid character ".toList ++ visibly [c] ++ " in type string ".toList
        ++ visibly whole)
    let behind (d : Display) (rest : Bytes) : Except Bytes (List Display) := do
      match rest with
      | 'z' :: rest => return { d with trailed := true } :: (← displays whole n rest)
      | rest => return d :: (← displays whole n rest)
    match cs with
    | [] => .ok []
    | 'a' :: rest => behind ⟨.named, 1, false⟩ rest
    | 'c' :: rest => behind ⟨.char, 1, false⟩ rest
    | c :: rest =>
      let figure? : Option Figure := match c with
        | 'o' => some .octal
        | 'd' => some .signed
        | 'u' => some .unsigned
        | 'x' => some .hex
        | _ => none
      match figure? with
      | none => invalid c
      | some figure =>
        let ds := rest.takeWhile Char.isDigit
        let after := rest.drop ds.length
        let size := Text.number ds
        match ds, after with
        | [], 'C' :: after => behind ⟨figure, 1, false⟩ after
        | [], 'S' :: after => behind ⟨figure, 2, false⟩ after
        | [], 'I' :: after => behind ⟨figure, 4, false⟩ after
        | [], 'L' :: after => behind ⟨figure, 8, false⟩ after
        | [], after => behind ⟨figure, 4, false⟩ after
        | _, after =>
          if [1, 2, 4, 8].contains size then behind ⟨figure, size, false⟩ after
          else .error ("invalid type string ".toList ++ visibly whole
            ++ ";\nthis system doesn't provide a ".toList ++ decimal size
            ++ "-byte integral type".toList)

/-- The display that a letter asks for. -/
def ofLetter? (c : Char) : Option Display :=
  match c with
  | 'a' => some ⟨.named, 1, false⟩
  | 'b' => some ⟨.octal, 1, false⟩
  | 'c' => some ⟨.char, 1, false⟩
  | 'd' => some ⟨.unsigned, 2, false⟩
  | 'o' | 'B' => some ⟨.octal, 2, false⟩
  | 'h' | 'x' => some ⟨.hex, 2, false⟩
  | 's' => some ⟨.signed, 2, false⟩
  | 'i' => some ⟨.signed, 4, false⟩
  | 'D' => some ⟨.unsigned, 4, false⟩
  | 'H' | 'X' => some ⟨.hex, 4, false⟩
  | 'O' => some ⟨.octal, 4, false⟩
  | 'I' | 'l' | 'L' => some ⟨.signed, 8, false⟩
  | _ => none

/-- A number of bytes that an option is given. -/
def amount (option : Char) (text : Bytes) : Act Nat := do
  let (n, rest) := Arith.number text
  let unit? : Option Nat := match rest with
    | [] => some 1
    | ['b'] => some 512
    | ['B'] => some 1024
    | ['k'] | ['K'] => some 1024
    | ['m'] | ['M'] => some 1048576
    | ['G'] => some 1073741824
    | _ => none
  match Arith.startsWithDigit 10 text, unit? with
  | true, some unit => return n * unit
  | _, _ => Act.quit ("invalid -".toList ++ option :: " argument ".toList ++ visibly text)

/-- The place that an operand behind the files names: an octal number, or a decimal one in front of
a point, or a hexadecimal one. -/
def place? (arg : Bytes) : Option Nat :=
  let text := if arg.head? = some '+' then arg.drop 1 else arg
  let (base, ds) : Nat × Bytes :=
    if text.getLast? = some '.' then (10, text.dropLast)
    else if "0x".toList.isPrefixOf text then (16, text.drop 2)
    else (8, text)
  if ds.isEmpty || !ds.all fun c => (Arith.digit? base c).isSome then none
  else some (Arith.digits base 0 ds).1

/-- The names of the options of `od`. -/
def optionNames : List (String × ValueUse × Char) :=
  [("skip-bytes", .always, 'j'), ("address-radix", .always, 'A'), ("read-bytes", .always, 'N'),
    ("format", .always, 't'), ("output-duplicates", .never, 'v'), ("strings", .attached, 'S'),
    ("traditional", .never, '\x03'), ("width", .attached, 'w')]

/-- The layout that options ask for. -/
def layout (o : Options) : Act Layout := do
  let radix : Option Radix ← match (o.value? 'A').getD ['o'] with
    | ['d'] => pure (some ⟨10, 7⟩)
    | ['o'] => pure (some ⟨8, 7⟩)
    | ['x'] => pure (some ⟨16, 6⟩)
    | ['n'] => pure none
    | other => Act.quit ("invalid output address radix ".toList ++ visibly other
        ++ "; it must be one character from [doxn]".toList)
  let mut asked : List Display := []
  for (c, value) in o.given do
    match c, value with
    | 't', some text => match displays text (text.length + 1) text with
      | .ok ds => asked := asked ++ ds
      | .error what => Act.quit what
    | c, _ => asked := asked ++ (ofLetter? c).toList
  let shown := if asked.isEmpty then [⟨.octal, 2, false⟩] else asked
  let unit := (shown.map (·.size)).foldl max 1
  let perRow ← match o.given.reverse.find? (·.1 = 'w') with
    | none => pure 16
    | some (_, none) => pure 32
    | some (_, some text) => do
      let n ← amount 'w' text
      if n = 0 || n % unit ≠ 0 then
        Act.warn ("warning: invalid width ".toList ++ decimal n ++ "; using ".toList
          ++ decimal unit ++ " instead".toList)
        pure unit
      else pure n
  return ⟨radix, shown, perRow, o.has 'v'⟩

/-! ## The program -/

/-- The bytes of files up to some number of them, and whether any file could be read. -/
def gather : Option Nat → List Bytes → Act (Bytes × Bool)
  | _, [] => return ([], false)
  | limit, arg :: args => do
    let found ← match limit with
      | none => Act.read arg
      | some n => do
        match ← Act.peek arg with
        | .ok text => do
          if arg = ['-'] then Act.take (min n text.length) (text.drop n)
          pure (.ok (text.take n))
        | .error t => pure (.error t)
    match found with
    | .error t => do
      let name := if arg = ['-'] then "'standard input'".toList else shown arg
      Act.complain (name ++ ": ".toList ++ t.message)
      let (more, readable) ← gather limit args
      return (more, readable || t = .isDirectory || arg = ['-'])
    | .ok text => do
      let left := limit.map (· - text.length)
      if left = some 0 then return (text, true)
      let (more, _) ← gather left args
      return (text ++ more, true)

/-- Shows bytes in figures. -/
def od : Executable := withOptions "A:aBbcDdeFfhHIij:lLN:OoS:st:vw::Xx" optionNames fun o => do
  let l ← layout o
  let isNew := ['A', 'j', 'N', 't', 'v', 'S', 'w'].any o.has
  let (files, start) : List Bytes × Option Nat := match isNew, o.operands with
    | false, [a] => if a.head? = some '+' && (place? a).isSome then ([], place? a) else ([a], none)
    | false, [a, b] =>
      let isPlace := b.head?.any fun c => c = '+' || c.isDigit
      if isPlace && (place? b).isSome then ([a], place? b) else ([a, b], none)
    | _, files => (files, none)
  let skip ← match o.value? 'j' with
    | some text => amount 'j' text
    | none => pure (start.getD 0)
  let limit ← match o.value? 'N' with
    | some text => pure (some (skip + (← amount 'N' text)))
    | none => pure none
  let (text, readable) ← gather limit (Act.orInput files)
  if !readable then Act.finish 1
  if text.length < skip then Act.quit "cannot skip past end of combined input".toList
  let shown := text.drop skip
  for piece in rows l (shown.length + 1) skip none [] shown do
    Act.put piece
  if l.radix.isSome then Act.put (fed (Radix.text l.radix text.length))
  if let .error t := (← get).input then
    if (Act.orInput files).contains ['-'] then
      Act.complain ("standard input: ".toList ++ t.message)

end ActionTree.Sh.Dump
