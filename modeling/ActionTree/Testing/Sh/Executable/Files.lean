import ActionTree.Testing.Sh.Executable.Options
import ActionTree.Testing.Sh.Permission

/-!
# Making and removing files

`mkdir`, `rmdir`, `rm`, `touch` and `chmod`.

* `Files.remove`: removes what a path leads to.
* `Files.makeAll`: makes a directory with those above it.
-/

namespace ActionTree.Sh.Files

/-- A message on what cannot be done with a file. -/
def cannot (what : String) (arg : Bytes) (t : Trouble) : Bytes :=
  what.toList ++ ' ' :: quotedName arg ++ ": ".toList ++ t.message

/-- The mode of a new node without the permissions that are not given. -/
def masked (mode mask : Nat) : Nat := mode - (mode &&& mask)

/-! ## Directories -/

/-- Makes a directory, if nothing has its name. -/
def makeOne (mode : Nat) (arg : Bytes) : Act (Option Trouble) := do
  let s ← get
  match s.disk.place true s.directory (Path.withoutSlashes arg) with
  | .error t => return some t
  | .ok p =>
    match p.node with
    | some _ => return some .present
    | none => do
      let node : Node := ⟨.directory [], mode, s.clock⟩
      set { s with disk := (s.disk.create p.directory p.name node).1 }
      return none

/-- The beginnings of a path that end with one of its parts. -/
def prefixes (path : Bytes) : List Bytes :=
  let start := if Path.isAbsolute path then ['/'] else []
  let ps := Path.parts path
  (List.range ps.length).map fun i => start ++ ['/'].intercalate (ps.take (i + 1))

/-- Makes a directory with those above it. -/
def makeAll (tells : Bool) (mode : Nat) (arg : Bytes) : Act Unit := do
  let all := prefixes arg
  if arg.isEmpty then Act.complain (cannot "cannot create directory" arg .absent)
  let mut failed := false
  for (path, i) in all.zipIdx do
    let s ← get
    if !failed && !s.disk.isDirectory s.directory path then
      let usual := masked 0o777 s.mask
      match ← makeOne (if i + 1 = all.length then mode else usual) path with
      | none => if tells then
          Act.put (s.name ++ ": created directory ".toList ++ fed (quotedName path))
      | some t => do
        failed := true
        let t := if t = .present && i + 1 < all.length then .notDirectory else t
        Act.complain (cannot "cannot create directory" path t)

/-- Makes directories, with those above them if it is told to. -/
def mkdir : Executable := withOptions "pm:vZ"
  [("mode", .always, 'm'), ("parents", .never, 'p'), ("verbose", .never, 'v')] fun o => do
  if o.operands.isEmpty then Act.misuse "missing operand".toList
  let s ← get
  let mode ← match o.value? 'm' with
    | none => pure (masked 0o777 s.mask)
    | some text => match Disk.modeFrom? s.mask true 0o777 text with
      | some mode => pure mode
      | none => Act.quit ("invalid mode ".toList ++ visibly text)
  for arg in o.operands do
    if o.has 'p' then makeAll (o.has 'v') mode arg
    else match ← makeOne mode arg with
      | none => if o.has 'v' then
          Act.put (s.name ++ ": created directory ".toList ++ fed (quotedName arg))
      | some t => Act.complain (cannot "cannot create directory" arg t)

/-- Why a directory cannot be removed, or where it is. -/
def emptyDirectory (arg : Bytes) : Act (Except Bytes Place) := do
  let s ← get
  match s.disk.place false s.directory (Path.withoutSlashes arg) with
  | .error t => return .error t.message
  | .ok p =>
    match p.node.map s.disk.kind with
    | none => return .error (Trouble.message .absent)
    | some (.directory es) =>
      if Path.parts arg = [] then return .error "Device or resource busy".toList
      else if (Path.parts arg).getLast? = some ['.'] then return .error (Trouble.message .invalid)
      else if !es.isEmpty then return .error (Trouble.message .notEmpty)
      else return .ok p
    | some _ => return .error (Trouble.message .notDirectory)

/-- A path without its last part, if it has more than one. -/
def above? (path : Bytes) : Option Bytes :=
  let bare := Path.withoutSlashes path
  match bare.reverse.dropWhile (· ≠ '/') with
  | [] => none
  | rest => match rest.dropWhile (· = '/') with
    | [] => none
    | rest => some rest.reverse

/-- Removes an empty directory, and with some options those above it. -/
def removeEmpty (o : Options) : Nat → Bool → Bytes → Act Unit
  | 0, _, _ => pure ()
  | n + 1, isFirst, arg => do
    if o.has 'v' then
      Act.put ((← get).name ++ ": removing directory, ".toList ++ fed (quotedName arg))
    match ← emptyDirectory arg with
    | .error why =>
      if !(o.has 'i' && why = Trouble.message .notEmpty) then
        let what := if isFirst then "failed to remove " else "failed to remove directory "
        Act.complain (what.toList ++ quotedName arg ++ ": ".toList ++ why)
    | .ok p => do
      let clock := (← get).clock
      Act.changeDisk fun d => d.removeName p.directory p.name clock
      if o.has 'p' then
        if let some path := above? arg then removeEmpty o n false path

/-- Removes directories that are empty. -/
def rmdir : Executable := withOptions "pv"
  [("ignore-fail-on-non-empty", .never, 'i'), ("parents", .never, 'p'), ("verbose", .never, 'v')]
  fun o => do
  if o.operands.isEmpty then Act.misuse "missing operand".toList
  for arg in o.operands do
    removeEmpty o (arg.length + 1) true arg

/-! ## Files -/

/-- The names of what a directory holds and what is below it, each behind what it holds. -/
def below (d : Disk) : Nat → Nat → Bytes → List (Bool × Bytes)
  | 0, _, _ => []
  | n + 1, k, path =>
    match d.entries? k with
    | none => [(false, path)]
    | some es => es.flatMap (fun e => below d n e.2 (Path.under path e.1)) ++ [(true, path)]

/-- Asks whether a file is removed, if the user wants to be asked. -/
def agreed (asks : Bool) (arg : Bytes) (k : Kind) : Act Bool := do
  if !asks then return true
  let what : String := match k with
    | .file c => if c.size = 0 then "remove regular empty file" else "remove regular file"
    | .directory es => if es.isEmpty then "remove directory" else "descend into directory"
    | .link _ => "remove symbolic link"
    | _ => "remove character special file"
  Act.confirmed (what.toList ++ ' ' :: quotedName arg)

/-- Removes what a path leads to. -/
def remove (o : Options) (arg : Bytes) : Act Unit := do
  let s ← get
  let recursive := o.has 'r' || o.has 'R'
  let fail (t : Trouble) : Act Unit := Act.complain (cannot "cannot remove" arg t)
  let asks := o.last? "fi" = some 'i'
  let last := (Path.parts arg).getLast?
  if recursive && !arg.isEmpty && Path.parts arg = [] then
    Act.complain "it is dangerous to operate recursively on '/'".toList
    Act.complain "use --no-preserve-root to override this failsafe".toList
  else if recursive && (last = some ['.'] || last = some ['.', '.']) then
    Act.complain ("refusing to remove '.' or '..' directory: skipping ".toList ++ quotedName arg)
  else match s.disk.place false s.directory arg with
    | .error t => if !(o.has 'f' && (t = .absent || t = .notDirectory)) then fail t
    | .ok _ =>
      match s.disk.place false s.directory (Path.withoutSlashes arg) with
      | .error t => fail t
      | .ok p =>
        match p.node with
        | none => if !o.has 'f' then fail .absent
        | some k =>
          let erase : Act Unit := Act.changeDisk fun d => d.removeName p.directory p.name s.clock
          match s.disk.kind k with
          | .directory es =>
            if !recursive && !o.has 'd' then fail .isDirectory
            else if !recursive && !es.isEmpty then fail .notEmpty
            else if ← agreed asks arg (s.disk.kind k) then
              if o.has 'v' then
                for (isDirectory, path) in below s.disk 64 k (Path.withoutSlashes arg) do
                  Act.put ((if isDirectory then "removed directory " else "removed ").toList
                    ++ fed (quotedName path))
              erase
          | kind =>
            if ← agreed asks arg kind then
              if o.has 'v' then Act.put ("removed ".toList ++ fed (quotedName arg))
              erase

/-- The names of the options of `rm`. -/
def removalNames : List (String × ValueUse × Char) :=
  [("force", .never, 'f'), ("interactive", .attached, 'i'), ("one-file-system", .never, 'x'),
    ("no-preserve-root", .never, 'n'), ("preserve-root", .attached, 'P'),
    ("recursive", .never, 'r'), ("dir", .never, 'd'), ("verbose", .never, 'v')]

/-- How a file can be removed whose name was taken for an option, if there is one. -/
def hyphenHint (s : Scene) (args : List Bytes) : Bytes :=
  let isFile (arg : Bytes) : Bool :=
    arg.head? = some '-' && 1 < arg.length && (s.disk.find s.directory arg).toOption.isSome
  match args.find? isFile with
  | some arg =>
    fed ("Try '".toList ++ s.name ++ " ./".toList ++ arg ++ "' to remove the file ".toList
      ++ visibly arg ++ ['.'])
  | none => []

/-- Removes files, and directories if it is told to. -/
def rm : Executable := fun args => do
  modify fun s => { s with usage := hyphenHint s args }
  let o ← Options.read ⟨"dfiIrRv", removalNames, true⟩ args
  if o.operands.isEmpty then
    if o.last? "fi" = some 'f' then pure () else Act.misuse "missing operand".toList
  for arg in o.operands do
    remove o arg

/-- Makes empty files where there are none, and sets the times of those that are there. -/
def touch : Executable := withOptions "acd:fhmr:t:"
  [("time", .always, 'T'), ("no-create", .never, 'c'), ("date", .always, 'd'),
    ("reference", .always, 'r'), ("no-dereference", .never, 'h')] fun o => do
  if o.operands.isEmpty then Act.misuse "missing file operand".toList
  for arg in o.operands do
    let s ← get
    match s.disk.place true s.directory arg with
    | .error t =>
      if o.has 'c' && t = .absent then pure ()
      else if arg.getLast? = some '/' && t = .absent then
        Act.complain (cannot "setting times of" arg t)
      else Act.complain (cannot "cannot touch" arg t)
    | .ok p =>
      match p.node with
      | some n => Act.changeDisk fun d => d.updateNode n fun node => { node with time := s.clock }
      | none =>
        if !o.has 'c' then
          let node : Node := ⟨.file .empty, masked 0o666 s.mask, s.clock⟩
          set { s with disk := (s.disk.create p.directory p.name node).1 }

/-! ## Permissions -/

/-- The permissions of a mode as letters. -/
def modeLetters (mode : Nat) : Bytes :=
  let triple (shift special : Nat) (mark : Char) : Bytes :=
    let bits := mode / Nat.pow 8 shift % 8
    let runs : Bool := bits % 2 = 1
    let last :=
      if mode &&& special ≠ 0 then (if runs then mark else mark.toUpper)
      else if runs then 'x' else '-'
    [if bits / 4 % 2 = 1 then 'r' else '-', if bits / 2 % 2 = 1 then 'w' else '-', last]
  triple 2 0o4000 's' ++ triple 1 0o2000 's' ++ triple 0 0o1000 't'

/-- A mode as four octal digits. -/
def modeDigits (mode : Nat) : Bytes :=
  let ds := Nat.toDigits 8 mode
  List.replicate (4 - ds.length) '0' ++ ds

/-- Changes the mode of a node, and says so. -/
def changeMode (o : Options) (mode : Nat → Nat → Nat) (path : Bytes) (n : Nat) : Act Unit := do
  let node := (← get).disk.node n
  let before := node.mode
  let after := mode n before
  Act.changeDisk fun d => d.updateNode n fun node => { node with mode := after }
  let text (m : Nat) : Bytes := modeDigits m ++ " (".toList ++ modeLetters m ++ [')']
  if before ≠ after && (o.has 'v' || o.has 'c') then
    Act.put ("mode of ".toList ++ quotedName path ++ " changed from ".toList ++ text before
      ++ " to ".toList ++ fed (text after))
  else if o.has 'v' then
    Act.put ("mode of ".toList ++ quotedName path ++ " retained as ".toList ++ fed (text before))

/-- Changes the mode of a node, and of all that is below it. -/
def changeModes (o : Options) (mode : Nat → Nat → Nat) : Nat → Bytes → Nat → Act Unit
  | 0, _, _ => pure ()
  | n + 1, path, k => do
    changeMode o mode path k
    if o.has 'R' then
      for (name, child) in (← get).disk.sortedEntries k do
        match (← get).disk.kind child with
        | .link _ => pure ()
        | _ => changeModes o mode n (Path.under path name) child

/-- Changes permissions. A mode may look like an option. -/
def chmod : Executable := fun args => do
  let isMode (a : Bytes) : Bool := match a with
    | '-' :: c :: _ => "rwxXstugoa,+=01234567".toList.contains c
    | _ => false
  let behind := args.dropWhile (· ≠ ['-', '-'])
  let front := args.take (args.length - behind.length)
  let modes := front.filter isMode
  let o ← Options.read ⟨"Rcfv", [("changes", .never, 'c'), ("recursive", .never, 'R'),
    ("no-preserve-root", .never, 'n'), ("preserve-root", .never, 'p'), ("quiet", .never, 'f'),
    ("reference", .always, 'r'), ("silent", .never, 'f'), ("verbose", .never, 'v')], true⟩
    (front.filter (!isMode ·) ++ behind)
  let (text, files) : Bytes × List Bytes := match modes, o.operands with
    | [], text :: files => (text, files)
    | modes, files => ([','].intercalate modes, files)
  if files.isEmpty then
    if text.isEmpty then Act.misuse "missing operand".toList
    else Act.misuse ("missing operand after ".toList ++ visibly text)
  let s ← get
  if (Disk.modeFrom? s.mask false 0 text).isNone then
    Act.misuse ("invalid mode: ".toList ++ visibly text)
  let isDirectory (n : Nat) : Bool := (s.disk.entries? n).isSome
  let mode (n before : Nat) : Nat :=
    (Disk.modeFrom? s.mask (isDirectory n) before text).getD before
  for arg in files do
    match ← Act.find arg with
    | .error t => if !o.has 'f' then Act.complain (cannot "cannot access" arg t)
    | .ok n => changeModes o mode 64 arg n

end ActionTree.Sh.Files
