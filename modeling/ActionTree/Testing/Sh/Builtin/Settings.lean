import ActionTree.Testing.Sh.Builtin.Basic
import ActionTree.Testing.Sh.Permission

/-!
# Settings of the shell

* `Builtin.changeDirectory`, `Builtin.directory`: the working directory.
* `Builtin.mask`, `Builtin.limit`: permissions of new files, and limits.
* `Builtin.alias_`, `Builtin.unalias`: words that stand for other texts.
-/

namespace ActionTree.Sh.Builtin

/-! ## The working directory -/

/-- Does a path start with a part that consists of dots? -/
def startsWithDots (path : Bytes) : Bool :=
  match Path.parts path with
  | part :: _ => path.head? = some '.' && (part = ['.'] || part = ['.', '.'])
  | [] => false

/-- The path of a directory without links. -/
def realDirectory (d : Disk) (directory path : Bytes) : Bytes :=
  match d.place true directory path with
  | .ok p => p.path
  | .error _ => Path.absolute directory path

/-- Changes the working directory: to the home directory if none is named, and to the one before for
`-`, which is printed. A path that does not start with a slash or dots is looked for in the
directories of `CDPATH` first. -/
def changeDirectory : Builtin := fun line args => do
  let flags ← Flags.read "LP" "" line args
  let physical := (flags.given.getLast?).any (·.1 = 'P')
  let m ← get
  let p := m.process
  let back := flags.rest.head? = some ['-']
  let target := match flags.rest with
    | [] => (p.value? "HOME".toList).getD []
    | ['-'] :: _ => (p.value? "OLDPWD".toList).getD []
    | arg :: _ => arg
  let isThere (path : Bytes) : Bool :=
    m.disk.isDirectory ['/'] (Path.absolute p.directory path)
  let search := splitAt ':' ((p.value? "CDPATH".toList).getD [])
  let named := if Path.isAbsolute target || startsWithDots target || target.isEmpty then none
    else (search.filter (!·.isEmpty)).find? fun d => isThere (Path.under d target)
  let path := Path.absolute p.directory (match named with
    | some d => Path.under d target
    | none => if target.isEmpty then ['.'] else target)
  if m.disk.isDirectory ['/'] path then
    let path := if physical then realDirectory m.disk ['/'] path else path
    Run.update fun p =>
      let p := p.withVar "OLDPWD".toList (some ⟨some p.directory, true, false⟩)
      { p.withVar "PWD".toList (some ⟨some path, true, false⟩) with directory := path }
    if back || named.isSome then Run.print 1 (path ++ ['\n'])
    Run.setStatus 0
  else Run.fail line ("can't cd to ".toList ++ target)

/-- Prints the working directory. -/
def directory : Builtin := fun line args => do
  let flags ← Flags.read "LP" "" line args
  let m ← get
  let path := if (flags.given.getLast?).any (·.1 = 'P') then
      realDirectory m.disk ['/'] m.process.directory
    else m.process.directory
  Run.print 1 (path ++ ['\n'])
  Run.setStatus 0

/-! ## Permissions -/

/-- Four octal digits. -/
def octalText (n : Nat) : Bytes :=
  let ds := Nat.toDigits 8 n
  List.replicate (4 - ds.length) '0' ++ ds

/-- The permissions that a mask leaves, by letters. -/
def permissionText (mask : Nat) : Bytes :=
  let one (who : Char) (shift : Nat) : Bytes :=
    let bits := (0o777 - mask) / Nat.pow 8 shift % 8
    who :: '=' :: [(4, 'r'), (2, 'w'), (1, 'x')].filterMap fun (b, c) =>
      if bits &&& b ≠ 0 then some c else none
  [','].intercalate [one 'u' 2, one 'g' 1, one 'o' 0]

/-- The mask of new files, by digits or by letters, or another one. -/
def mask : Builtin := fun line args => do
  let flags ← Flags.read "S" "" line args
  let p ← Run.process
  match flags.rest with
  | [] => do
    Run.print 1 ((if flags.has 'S' then permissionText p.mask else octalText p.mask) ++ ['\n'])
    Run.setStatus 0
  | arg :: _ =>
    if arg.head?.any Char.isDigit then
      if arg.all isOctal then do
        Run.update fun p => { p with mask := (octal arg.length 0 arg).1 % 0o1000 }
        Run.setStatus 0
      else Run.fail line ("Illegal number: ".toList ++ arg)
    else match Disk.modeFrom? 0 false (0o777 - p.mask) arg with
      | some mode => do
        Run.update fun p => { p with mask := 0o777 - mode % 0o1000 }
        Run.setStatus 0
      | none => Run.fail line ("Illegal mode: ".toList ++ arg)

/-! ## Limits -/

/-- The limits: their names, their units, their letters and their usual values. -/
def limits : List (String × Char × String) :=
  [("time(seconds)", 't', "unlimited"), ("file(blocks)", 'f', "unlimited"),
    ("data(kbytes)", 'd', "unlimited"), ("stack(kbytes)", 's', "8192"),
    ("coredump(blocks)", 'c', "0"), ("memory(kbytes)", 'm', "unlimited"),
    ("locked memory(kbytes)", 'l', "8192"), ("process", 'p', "unlimited"),
    ("nofiles", 'n', "1048576"), ("vmemory(kbytes)", 'v', "unlimited"),
    ("locks", 'w', "unlimited"), ("rtprio", 'r', "0")]

/-- Shows or sets a limit; of all limits each on a line with its name. -/
def limit : Builtin := fun line args => do
  let flags ← Flags.read "HSatfdscmlpnvwr" "" line args
  let p ← Run.process
  let letter := ((flags.given.filter fun g => g.1 ≠ 'H' && g.1 ≠ 'S' && g.1 ≠ 'a').getLast?).elim
    'f' (·.1)
  let valueOf (c : Char) (usual : String) : Bytes :=
    ((p.limits.find? (·.1 = c)).map (·.2)).getD usual.toList
  let row := limits.find? (·.2.1 = letter)
  match flags.rest with
  | [] => do
    if flags.has 'a' then
      Run.print 1 (limits.flatMap fun (name, c, usual) =>
        pad true 20 name.toList ++ ' ' :: valueOf c usual ++ ['\n'])
    else Run.print 1 (valueOf letter ((row.map (·.2.2)).getD "unlimited") ++ ['\n'])
    Run.setStatus 0
  | [value] =>
    if flags.has 'a' then Run.fail line "too many arguments".toList
    else if value = "unlimited".toList || (!value.isEmpty && value.all Char.isDigit) then do
      Run.update fun p =>
        { p with limits := (letter, value) :: p.limits.filter (·.1 ≠ letter) }
      Run.setStatus 0
    else Run.fail line "bad number".toList
  | _ => Run.fail line "too many arguments".toList

/-! ## Aliases -/

/-- The place of a name in a table of so many rows. -/
def slot (rows : Nat) (name : Bytes) : Nat :=
  (name.foldl (fun n c => n + c.toNat) (((name.head?).elim 0 Char.toNat) * 16)) % rows

/-- Names in the order of a table of so many rows; those in one row are in the order given. -/
def inSlots {α : Type} (rows : Nat) (xs : List (Bytes × α)) : List (Bytes × α) :=
  xs.mergeSort fun a b => slot rows a.1 ≤ slot rows b.1

/-- An alias as it is shown. -/
def aliasText (a : Bytes × Bytes) : Bytes := a.1 ++ '=' :: readable a.2 ++ ['\n']

/-- Sets aliases, or shows them. -/
def alias_ : Builtin := fun _ args => do
  let p ← Run.process
  if args.isEmpty then Run.print 1 ((inSlots 39 p.aliases).flatMap aliasText)
  Run.setStatus 0
  for arg in args do
    match (arg.drop 1).idxOf? '=' with
    | some k =>
      let name := arg.take (k + 1)
      let value := arg.drop (k + 2)
      Run.update fun p =>
        { p with aliases :=
            if p.aliases.any (·.1 = name) then
              p.aliases.map fun a => if a.1 = name then (name, value) else a
            else p.aliases ++ [(name, value)] }
    | none =>
      match (← Run.process).aliases.find? (·.1 = arg) with
      | some a => Run.print 1 (aliasText a)
      | none => do
        Run.print 2 ("alias: ".toList ++ arg ++ " not found\n".toList)
        Run.setStatus 1

/-- Removes aliases. -/
def unalias : Builtin := fun line args => do
  let flags ← Flags.read "a" "" line args
  Run.setStatus 0
  if flags.has 'a' then Run.update fun p => { p with aliases := [] }
  else
    for name in flags.rest do
      if (← Run.process).aliases.any (·.1 = name) then
        Run.update fun p => { p with aliases := p.aliases.filter (·.1 ≠ name) }
      else
        Run.print 2 ("unalias: ".toList ++ name ++ " not found\n".toList)
        Run.setStatus 1

end ActionTree.Sh.Builtin
