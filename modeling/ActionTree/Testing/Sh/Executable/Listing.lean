import ActionTree.Testing.Sh.Executable.Files

/-!
# Listing directories

`ls` names files, and what is in directories.

* `Listing.ls`: the program.
-/

namespace ActionTree.Sh.Listing

/-- A name with its node. -/
structure Entry where
  name : Bytes
  index : Nat
  node : Node

namespace Entry

/-- How much is in a node. -/
def size (e : Entry) : Nat :=
  match e.node.kind with
  | .file c => c.size
  | .directory _ => 4096
  | .link target => target.length
  | _ => 0

/-- How much room a node takes, in blocks. -/
def blocks (e : Entry) : Nat :=
  match e.node.kind with
  | .file c => (c.size + 4095) / 4096 * 4
  | .directory _ => 4
  | _ => 0

/-- The letter of what a node is. -/
def letter (e : Entry) : Char :=
  match e.node.kind with
  | .directory _ => 'd'
  | .link _ => 'l'
  | .device _ => 'c'
  | _ => '-'

/-- The mark behind a name, if it is asked for. -/
def mark (o : Options) (e : Entry) : Bytes :=
  match e.node.kind with
  | .directory _ => if (o.last? "Fp").isSome then ['/'] else []
  | .link _ => if o.has 'F' then ['@'] else []
  | .device _ => []
  | .file _ | .program _ => if o.has 'F' && e.node.mode &&& 0o111 ≠ 0 then ['*'] else []

/-- The name as it is shown. -/
def text (o : Options) (e : Entry) : Bytes :=
  let plain (c : Char) : Bytes := if isPrintable c then [c] else escapeText c
  let name := match o.last? "QNb" with
    | some 'Q' =>
      '"' :: e.name.flatMap (fun c => if c = '"' || c = '\\' then ['\\', c] else plain c) ++ ['"']
    | some 'b' =>
      e.name.flatMap fun c => if c = ' ' || c = '\\' then ['\\', c] else plain c
    | _ => e.name
  name ++ e.mark o

end Entry

/-- Is a name shown? -/
def isShown (o : Options) (name : Bytes) : Bool :=
  match o.last? "aAf" with
  | some 'A' => name ≠ ['.'] && name ≠ ['.', '.']
  | some _ => true
  | none => name.head? ≠ some '.'

/-- Entries in the order that the options ask for. -/
def ordered (o : Options) (es : List Entry) : List Entry :=
  let byName (a b : Entry) : Bool := inOrder a.name b.name
  let byKey (key : Entry → Nat) (a b : Entry) : Bool :=
    key b < key a || (key a = key b && byName a b)
  let sorted := match o.last? "StUfX" with
    | some 'S' => es.mergeSort (byKey Entry.size)
    | some 't' => es.mergeSort (byKey (·.node.time))
    | some 'U' | some 'f' => es
    | _ => es.mergeSort byName
  if o.has 'r' then sorted.reverse else sorted

/-- The number of names that a node has. -/
def links (d : Disk) (e : Entry) : Nat :=
  match e.node.kind with
  | .directory es => 2 + (es.filter fun x => (d.entries? x.2).isSome).length
  | _ => max 1 ((d.nodes.toList.flatMap fun n => match n.kind with
    | .directory es => es.filter (·.2 = e.index)
    | _ => []).length)

/-- A size with a unit that keeps it short. -/
def shortSize (n : Nat) : Bytes :=
  let rec go : Nat → Nat → List Char → Bytes
    | 0, n, _ | _, n, [] => decimal n
    | k + 1, n, u :: us =>
      if n < 1024 * 10 then
        let tenths := (n * 10 + 1023) / 1024
        if tenths < 100 then decimal (tenths / 10) ++ '.' :: decimal (tenths % 10) ++ [u]
        else decimal ((n + 1023) / 1024) ++ [u]
      else if n < 1024 * 1024 then decimal ((n + 1023) / 1024) ++ [u]
      else go k ((n + 1023) / 1024) us
  if n < 1024 then decimal n else go 6 n "KMGTPE".toList

/-- Entries in rows, each with all that is known of it. -/
def long (o : Options) (d : Disk) (es : List Entry) : Bytes :=
  let size (e : Entry) : Bytes := if o.has 'h' then shortSize e.size else decimal e.size
  let owner := if o.has 'n' then ['0'] else "root".toList
  let width (f : Entry → Bytes) : Nat := (es.map fun e => (f e).length).foldl max 0
  let linkText (e : Entry) : Bytes := decimal (links d e)
  let blockText (e : Entry) : Bytes := decimal e.blocks
  es.flatMap fun e =>
    let target := match e.node.kind with
      | .link t => " -> ".toList ++ t
      | _ => []
    (if o.has 'i' then decimal e.index ++ [' '] else [])
      ++ (if o.has 's' then pad false (width blockText) (blockText e) ++ [' '] else [])
      ++ e.letter :: Files.modeLetters e.node.mode ++ ' ' ::
        pad false (width linkText) (linkText e) ++ [' ']
      ++ (if o.has 'g' then [] else owner ++ [' '])
      ++ (if o.has 'o' || o.has 'G' then [] else owner ++ [' '])
      ++ pad false (width size) (size e) ++ " Jan  1  1970 ".toList ++ e.text o ++ fed target

/-- The number of columns into which texts fit, with two blanks between them, and the widths. -/
def columns (width : Nat) (across : Bool) (texts : List Bytes) : List Nat :=
  let lengths := (texts.map List.length).toArray
  let count := lengths.size
  let widths (n : Nat) : List Nat :=
    let rows := (count + n - 1) / n
    (List.range n).map fun c =>
      let column := (List.range rows).filterMap fun r =>
        let i := if across then r * n + c else c * rows + r
        lengths[i]?
      column.foldl max 0
  let fits (ws : List Nat) : Bool := ws.foldl (· + ·) (2 * (ws.length - 1)) < width
  let tries := (List.range (min count (width / 3))).reverse.map fun i => widths (i + 1)
  (tries.find? fun ws => fits ws && !ws.contains 0).getD [(texts.map List.length).foldl max 0]

/-- Texts in columns. -/
def inColumns (width : Nat) (across : Bool) (texts : List Bytes) : Bytes :=
  let ws := columns width across texts
  let n := ws.length
  let rows := (texts.length + n - 1) / n
  let cells := texts.toArray
  (List.range rows).flatMap fun r =>
    let row := (List.range n).filterMap fun c =>
      (cells[if across then r * n + c else c * rows + r]?).map fun t => (t, ws.getD c 0 + 2)
    let padded := row.dropLast.flatMap fun (t, w) => pad true w t
    fed (padded ++ ((row.getLast?).map (·.1)).getD [])

/-- Entries as the options ask for. -/
def listed (o : Options) (d : Disk) (es : List Entry) : Bytes :=
  let short (e : Entry) : Bytes :=
    (if o.has 'i' then decimal e.index ++ [' '] else [])
      ++ (if o.has 's' then decimal e.blocks ++ [' '] else []) ++ e.text o
  let width := ((o.value? 'w').bind (Text.natural? 100000)).getD 80
  match o.last? "lgon1Cxm" with
  | some 'C' => inColumns width false (es.map short)
  | some 'x' => inColumns width true (es.map short)
  | some 'm' => if es.isEmpty then [] else fed (", ".toList.intercalate (es.map short))
  | some '1' | none => ofLines (es.map short)
  | some _ => long o d es

/-- Is the room that all takes shown above? -/
def hasTotal (o : Options) : Bool := (o.last? "lgons").isSome

/-- What is in a directory, and in those below it. -/
def section_ (o : Options) : Nat → Bool → Bool → Bytes → Nat → Act Unit
  | 0, _, _, _, _ => pure ()
  | n + 1, isFirst, titled, path, k => do
    let d := (← get).disk
    let own := (d.entries? k).getD []
    let dots := [(['.'], k), (['.', '.'], k)]
    let es := ((dots ++ own).filter fun e => isShown o e.1).map fun e =>
      (⟨e.1, e.2, d.node e.2⟩ : Entry)
    let es := ordered o es
    if titled then Act.put ((if isFirst then [] else ['\n']) ++ path ++ ":\n".toList)
    if hasTotal o then
      let total := (es.map Entry.blocks).foldl (· + ·) 0
      Act.put ("total ".toList
        ++ fed (if o.has 'h' then shortSize (total * 1024) else decimal total))
    Act.put (listed o d es)
    if o.has 'R' then
      for e in es do
        if e.name ≠ ['.'] && e.name ≠ ['.', '.'] && (d.entries? e.index).isSome then
          section_ o n false true (Path.under path e.name) e.index

/-- Names files, and what is in directories. -/
def ls : Executable := fun args => do
  Act.setFailing 2
  let o ← Options.read ⟨"abcdfghiklmnopqrstuvw:xABCDFGHI:LNQRST:UXZ1",
    [("all", .never, 'a'), ("almost-all", .never, 'A'), ("author", .never, '\x03'),
      ("classify", .attached, 'F'), ("color", .attached, '\x04'), ("directory", .never, 'd'),
      ("escape", .never, 'b'), ("file-type", .never, 'p'), ("format", .always, '\x05'),
      ("full-time", .never, 'l'), ("group-directories-first", .never, '\x06'),
      ("human-readable", .never, 'h'), ("ignore", .always, 'I'), ("inode", .never, 'i'),
      ("literal", .never, 'N'), ("no-group", .never, 'G'), ("numeric-uid-gid", .never, 'n'),
      ("quote-name", .never, 'Q'), ("recursive", .never, 'R'), ("reverse", .never, 'r'),
      ("size", .never, 's'), ("sort", .always, '\x07'), ("width", .always, 'w')], true⟩ args
  let s ← get
  let follows := (o.last? "lFd").isNone || o.has 'L'
  let mut files : List Entry := []
  let mut folders : List Entry := []
  for arg in if o.operands.isEmpty then [['.']] else o.operands do
    match (s.disk.place true s.directory arg).toOption.bind (·.node),
        s.disk.place false s.directory arg with
    | _, .error t => Act.complain (Files.cannot "cannot access" arg t)
    | target, .ok p =>
      match p.node with
      | none => Act.complain (Files.cannot "cannot access" arg .absent)
      | some own =>
        let k := if follows then target.getD own else own
        if o.has 'L' && target.isNone then Act.complain (Files.cannot "cannot access" arg .absent)
        else
          let e : Entry := ⟨arg, k, s.disk.node k⟩
          let shownAs : Entry := if o.has 'L' then e else ⟨arg, own, s.disk.node own⟩
          if (s.disk.entries? k).isSome && !o.has 'd' then folders := e :: folders
          else files := shownAs :: files
  let plain := ordered o files.reverse
  let directories := ordered o folders.reverse
  if !plain.isEmpty then Act.put (listed o s.disk plain)
  let titled := 1 < o.operands.length || o.has 'R'
  for (e, i) in directories.zipIdx do
    section_ o 64 (plain.isEmpty && i = 0) titled e.name e.index

end ActionTree.Sh.Listing
