import ActionTree.Testing.Sh.Executable.Copies
import ActionTree.Testing.Sh.Executable.Parts

/-!
# Names and sizes of single files

`mktemp` makes a file with a name that nothing has, `truncate` sets sizes, and `link` and `unlink`
give and take single names.

* `Nodes.freshName?`: a name in the place of a template.
* `Sizing.result?`: the size that a file gets.
-/

namespace ActionTree.Sh.Nodes

/-! ## New names -/

/-- The characters of new names. -/
def letters : Array Char :=
  "ABCDEFGHIJKLMNOPQRSTUVWXYZabcdefghijklmnopqrstuvwxyz0123456789".toList.toArray

/-- So many characters that look like none of those for another number. -/
def scrambled : Nat → Nat → Bytes
  | 0, _ => []
  | n + 1, seed =>
    let next := (seed * 6364136223846793005 + 1442695040888963407) % UInt64.size
    letters.getD (next / 8589934592 % letters.size) 'X' :: scrambled n next

/-- How many names are tried. -/
def mostTries : Nat := 100

/-- A name that nothing has, of the start, the number of free characters and the end of a template.
-/
def freshName? (s : Scene) (start : Bytes) (free : Nat) (ending : Bytes) : Option Bytes :=
  let tries := (List.range mostTries).map fun i =>
    start ++ scrambled free (s.disk.nodes.size + 7919 * i) ++ ending
  tries.find? fun path => match s.disk.place false s.directory path with
    | .ok p => p.node.isNone
    | .error _ => true

/-- The template of a call without one. -/
def usualTemplate : Bytes := "tmp.XXXXXXXXXX".toList

/-- How many free characters a template has at least. -/
def leastFree : Nat := 3

/-- A template cut in its start, the number of its free characters, and its end. -/
def cutTemplate (ending? : Option Bytes) (template : Bytes) : Act (Bytes × Nat × Bytes) := do
  let isFree (c : Char) : Bool := c = 'X'
  let (whole, ending) ← match ending? with
    | some ending =>
      if template.getLast? ≠ some 'X' then
        Act.quit ("with --suffix, template ".toList ++ quotedName template
          ++ " must end in X".toList)
      else pure (template, ending)
    | none =>
      let ending := (template.reverse.takeWhile (!isFree ·)).reverse
      pure (template.take (template.length - ending.length), ending)
  if ending.contains '/' then
    Act.quit ("invalid suffix ".toList ++ quotedName ending
      ++ ", contains directory separator".toList)
  let free := (whole.reverse.takeWhile isFree).length
  if free < leastFree then Act.quit ("too few X's in template ".toList ++ quotedName template)
  return (whole.take (whole.length - free), free, ending)

/-- The directory in which a new name is, if it is not the working directory. -/
def home? (o : Options) : Act (Option Bytes) := do
  let usual := ((← Act.setting? "TMPDIR").filter (!·.isEmpty)).getD "/tmp".toList
  let given := (o.value? 'p').filter (!·.isEmpty)
  if o.has 't' then
    return some (((← Act.setting? "TMPDIR").filter (!·.isEmpty)).getD (given.getD "/tmp".toList))
  else if o.has 'p' then return some (given.getD usual)
  else if o.operands.isEmpty then return some usual
  else return none

/-- Makes a file or a directory with a name that nothing has. -/
def mktemp : Executable := withOptions "dp:qtuV"
  [("directory", .never, 'd'), ("quiet", .never, 'q'), ("dry-run", .never, 'u'),
    ("suffix", .always, 's'), ("tmpdir", .attached, 'p')] fun o => do
  let template ← match o.operands with
    | [] => pure usualTemplate
    | [template] => pure template
    | _ => Act.misuse "too many templates".toList
  let (start, free, ending) ← cutTemplate (o.value? 's') template
  let home ← home? o
  if home.isSome then
    if o.has 't' && template.contains '/' then
      Act.quit ("invalid template, ".toList ++ quotedName template
        ++ ", contains directory separator".toList)
    else if template.head? = some '/' then
      Act.quit ("invalid template, ".toList ++ quotedName template
        ++ "; with --tmpdir, it may not be absolute".toList)
  let into (path : Bytes) : Bytes := (home.map (Path.under · path)).getD path
  let s ← get
  let what := if o.has 'd' then "directory" else "file"
  let fail (t : Trouble) : Act Unit :=
    if o.has 'q' then Act.finish 1
    else Act.quit (("failed to create " ++ what ++ " via template ").toList
      ++ quotedName (into template) ++ ": ".toList ++ t.message)
  match freshName? s (into start) free ending with
  | none => fail .present
  | some path =>
    if o.has 'u' then Act.put (fed path)
    else match s.disk.place false s.directory path with
      | .error t => fail t
      | .ok p =>
        let node : Node :=
          if o.has 'd' then ⟨.directory [], Files.masked 0o700 s.mask, s.clock⟩
          else ⟨.file .empty, Files.masked 0o600 s.mask, s.clock⟩
        set { s with disk := (s.disk.create p.directory p.name node).1 }
        Act.put (fed path)

/-! ## Sizes -/

/-- How a number says the size of a file. -/
inductive Sizing where
  | exactly
  | more
  | less
  | atMost
  | atLeast
  /-- The next lower multiple. -/
  | downTo
  /-- The next higher multiple. -/
  | upTo
  deriving DecidableEq

/-- The size that a file gets that has one; there is none if it would be a multiple of 0. -/
def Sizing.result? (w : Sizing) (n old : Nat) : Option Nat :=
  match w with
  | exactly => some n
  | more => some (old + n)
  | less => some (old - n)
  | atMost => some (min old n)
  | atLeast => some (max old n)
  | downTo => if n = 0 then none else some (old / n * n)
  | upTo => if n = 0 then none else some ((old + n - 1) / n * n)

/-- What a text says about a size. -/
def sizing? (text : Bytes) : Except CountFault (Sizing × Nat) :=
  let text := text.dropWhile Arith.isSpace
  let (way, rest) : Sizing × Bytes := match text with
    | '+' :: rest => (.more, rest)
    | '-' :: rest => (.less, rest)
    | '<' :: rest => (.atMost, rest)
    | '>' :: rest => (.atLeast, rest)
    | '/' :: rest => (.downTo, rest)
    | '%' :: rest => (.upTo, rest)
    | rest => (.exactly, rest)
  match count? rest with
  | .ok n => if n < Nat.pow 2 63 then .ok (way, n) else .error .tooLarge
  | .error f => .error f

/-- The bytes of a block. -/
def blockSize : Nat := 4096

/-- The greatest size of a file. -/
def greatestSize : Nat := 33554432

/-- Sets the size of the file at a path; `size` makes it of the size that the file has. -/
def setSize (create : Bool) (size : Nat → Option Nat) (path : Bytes) : Act Unit := do
  let s ← get
  let fail (t : Trouble) : Act Unit :=
    Act.complain ("cannot open ".toList ++ quotedName path ++ " for writing: ".toList ++ t.message)
  let resize (n : Nat) (c : Content) : Act Unit := do
    match size c.size with
    | none => Act.quit "division by zero".toList
    | some k =>
      if greatestSize < k then
        Act.complain ("failed to truncate ".toList ++ quotedName path ++ " at ".toList ++ decimal k
          ++ " bytes: File too large".toList)
      else
        Act.changeDisk fun d => d.updateNode n fun node =>
          { node with kind := .file (c.resize k), time := s.clock }
  match s.disk.place true s.directory path with
  | .error t => if create || t ≠ .absent then fail t
  | .ok p =>
    match p.node with
    | none =>
      if create then
        let node : Node := ⟨.file .empty, Files.masked 0o666 s.mask, s.clock⟩
        let (disk, n) := s.disk.create p.directory p.name node
        set { s with disk := disk }
        resize n .empty
    | some n =>
      match s.disk.kind n with
      | .file c => resize n c
      | .directory _ => fail .isDirectory
      | _ => Act.complain ("failed to truncate ".toList ++ quotedName path ++ " at ".toList
          ++ decimal ((size 0).getD 0) ++ " bytes: ".toList ++ Trouble.message .invalid)

/-- Sets the sizes of files. -/
def truncate : Executable := withOptions "cor:s:"
  [("no-create", .never, 'c'), ("io-blocks", .never, 'o'), ("reference", .always, 'r'),
    ("size", .always, 's')] fun o => do
  let wanted? ← match o.value? 's' with
    | none => pure none
    | some text => match sizing? text with
      | .ok w => pure (some w)
      | .error f => Act.quit ("Invalid number: ".toList ++ visibly text ++ f.reason)
  if wanted?.isNone && !o.has 'r' then
    Act.misuse "you must specify either '--size' or '--reference'".toList
  if o.has 'r' && wanted?.any (·.1 = .exactly) then
    Act.misuse "you must specify a relative '--size' with '--reference'".toList
  if o.has 'o' && wanted?.isNone then
    Act.misuse "--io-blocks was specified but --size was not".toList
  if o.operands.isEmpty then Act.misuse "missing file operand".toList
  if wanted?.any fun w => (w.1.result? w.2 0).isNone then Act.quit "division by zero".toList
  let model ← match o.value? 'r' with
    | none => pure none
    | some path => match ← Act.find path with
      | .error t => Act.quit (Files.cannot "cannot stat" path t)
      | .ok n => match (← get).disk.kind n with
        | .file c => pure (some c.size)
        | _ => pure (some 0)
  let unit := if o.has 'o' then blockSize else 1
  let size (old : Nat) : Option Nat :=
    let old := model.getD old
    match wanted? with
    | none => some old
    | some (way, n) => way.result? (n * unit) old
  for path in o.operands do
    setSize (!o.has 'c') size path

/-! ## Single names -/

/-- Gives a file another name. -/
def link : Executable := withOptions "" [] fun o => do
  match o.operands with
  | [] => Act.misuse "missing operand".toList
  | [path] => Act.misuse ("missing operand after ".toList ++ visibly path)
  | [path, target] =>
    let s ← get
    let fail (t : Trouble) : Act Unit :=
      Act.quit ("cannot create link ".toList ++ quotedName target ++ " to ".toList
        ++ quotedName path ++ ": ".toList ++ t.message)
    match ← Copies.nodeAt false path, ← Act.place false target with
    | .error t, _ | _, .error t => fail t
    | .ok (_, n), .ok p =>
      if p.node.isSome then fail .present
      else if (s.disk.entries? n).isSome then fail .notPermitted
      else Act.changeDisk fun d => d.addName p.directory p.name n s.clock
  | _ :: _ :: extra :: _ => Act.misuse ("extra operand ".toList ++ visibly extra)

/-- Takes away a name. -/
def unlink : Executable := withOptions "" [] fun o => do
  match o.operands with
  | [] => Act.misuse "missing operand".toList
  | [path] =>
    let s ← get
    let fail (t : Trouble) : Act Unit := Act.quit (Files.cannot "cannot unlink" path t)
    match ← Act.place false path with
    | .error t => fail t
    | .ok p => match p.node with
      | none => fail .absent
      | some n =>
        if (s.disk.entries? n).isSome then fail .isDirectory
        else Act.changeDisk fun d => d.removeName p.directory p.name s.clock
  | _ :: extra :: _ => Act.misuse ("extra operand ".toList ++ visibly extra)

end ActionTree.Sh.Nodes
