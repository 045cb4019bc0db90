import ActionTree.Testing.Sh.Executable.Files

/-!
# Copying, moving and linking files

`cp`, `mv` and `ln` give files to other names. The last operand is where they go: a new name, or a
directory that they go into.

* `Copies.goals`: from where to where.
-/

namespace ActionTree.Sh.Copies

/-- The node at a path, a link at its end followed or not. -/
def nodeAt (follow : Bool) (arg : Bytes) : Act (Except Trouble (Place × Nat)) := do
  match ← Act.place follow arg with
  | .error t => return .error t
  | .ok p => return match p.node with
    | some n => .ok (p, n)
    | none => .error .absent

/-- Is there a directory at a path? -/
def isDirectory (arg : Bytes) : Act Bool := do
  let s ← get
  return s.disk.isDirectory s.directory arg

/-- From where to where: the last operand or that of an option is the goal. -/
def goals (o : Options) : Act (List (Bytes × Bytes)) := do
  let into (target path : Bytes) : Bytes × Bytes := (path, Path.under target (Path.last path))
  match o.value? 't', o.operands with
  | _, [] => Act.misuse "missing file operand".toList
  | some target, paths =>
    if ← isDirectory target then return paths.map (into target)
    else
      let t := match ← nodeAt true target with
        | .error t => t
        | .ok _ => .notDirectory
      Act.quit ("target directory ".toList ++ quotedName target ++ ": ".toList ++ t.message)
  | none, [only] =>
    Act.misuse ("missing destination file operand after ".toList ++ quotedName only)
  | none, [path, target] =>
    if !o.has 'T' && (← isDirectory target) then return [into target path]
    else return [(path, target)]
  | none, paths =>
    let target := (paths.getLast?).getD []
    if ← isDirectory target then return paths.dropLast.map (into target)
    else
      let t := match ← nodeAt true target with
        | .error t => t
        | .ok _ => .notDirectory
      Act.quit ("target ".toList ++ quotedName target ++ ": ".toList ++ t.message)

/-- Says that something was done from one path to another one. -/
def tell (o : Options) (what arrow : String) (source target : Bytes) : Act Unit := do
  if o.has 'v' then
    Act.put (what.toList ++ quotedName source ++ arrow.toList ++ fed (quotedName target))

/-- Why a new name cannot be where a path leads, or the place for it. -/
def room (target : Bytes) : Act (Except Trouble Place) := do
  match ← Act.place true (Path.withoutSlashes target) with
  | .error t => return .error t
  | .ok p =>
    if p.node.isNone && target.getLast? = some '/' then return .error .notDirectory
    else return .ok p

/-- Is a node a part of a directory? -/
def isWithin (d : Disk) : Nat → Nat → Nat → Bool
  | 0, _, _ => false
  | n + 1, k, directory =>
    k = directory || ((d.entries? directory).getD []).any fun e => isWithin d n k e.2

/-- Is a file at the goal replaced? The user may want that never, or to be asked. -/
def replaces (o : Options) (target : Bytes) : Act Bool := do
  match o.last? "nfi" with
  | some 'n' => return false
  | some 'i' => do
    let agreed ← Act.confirmed ("overwrite ".toList ++ quotedName target)
    if !agreed then Act.setStatus 1
    return agreed
  | _ => return true

/-- Copies what a path leads to, with all that is below it if it is told to. -/
def copy (o : Options) : Nat → Bytes → Bytes → Act Unit
  | 0, _, _ => pure ()
  | n + 1, source, target => do
    let recursive := (o.last? "rRa").isSome
    let follows := !recursive || o.has 'L'
    match ← nodeAt follows source with
    | .error t => Act.complain (Files.cannot "cannot stat" source t)
    | .ok (_, k) =>
      let s ← get
      let node := s.disk.node k
      let cannot (what : String) (t : Trouble) : Act Unit :=
        Act.complain (Files.cannot what target t)
      let keptMode := if (o.last? "pa").isSome then node.mode
        else Files.masked (node.mode &&& 0o777) s.mask
      match node.kind with
      | .directory _ =>
        if !recursive then
          Act.complain ("-r not specified; omitting directory ".toList ++ quotedName source)
        else
          match ← room (Path.withoutSlashes target) with
          | .error t => cannot "cannot create directory" t
          | .ok p =>
            if isWithin s.disk 64 p.directory k then
              Act.complain ("cannot copy a directory, ".toList ++ quotedName source
                ++ ", into itself, ".toList ++ quotedName target)
            else
              let goOn : Bool ← match p.node with
                | some old => do
                  if (s.disk.entries? old).isSome then pure true
                  else do
                    Act.complain ("cannot overwrite non-directory ".toList ++ quotedName target
                      ++ " with directory ".toList ++ quotedName source)
                    pure false
                | none => do
                  let node : Node := ⟨.directory [], keptMode, s.clock⟩
                  Act.changeDisk fun d => (d.create p.directory p.name node).1
                  tell o "" " -> " source target
                  pure true
              if goOn then
                for (name, _) in s.disk.sortedEntries k do
                  copy o n (Path.under source name) (Path.under target name)
      | kind =>
        match ← room target with
        | .error t => cannot "cannot create regular file" t
        | .ok p =>
          if p.node = some k then
            Act.complain (quotedName source ++ " and ".toList ++ quotedName target
              ++ " are the same file".toList)
          else
            let content : Kind := match kind with
              | .file c => .file c
              | .link t => .link t
              | _ => .file (.ofText ((s.disk.textOf k).toOption.getD []))
            match p.node with
            | none => do
              Act.changeDisk fun d => (d.create p.directory p.name ⟨content, keptMode, s.clock⟩).1
              tell o "" " -> " source target
            | some old =>
              match s.disk.kind old with
              | .directory _ =>
                Act.complain ("cannot overwrite directory ".toList ++ quotedName target
                  ++ " with non-directory ".toList ++ quotedName source)
              | .file _ =>
                if ← replaces o target then
                  Act.changeDisk fun d => d.updateNode old fun node =>
                    { node with kind := content, time := s.clock }
                  tell o "" " -> " source target
              | _ => discard (Act.writeFile true target ((s.disk.textOf k).toOption.getD []))

/-- Copies files, and directories if it is told to. -/
def cp : Executable := withOptions "abdfHilLnprst:uvxPRTZ"
  [("archive", .never, 'a'), ("force", .never, 'f'), ("interactive", .never, 'i'),
    ("no-clobber", .never, 'n'), ("no-target-directory", .never, 'T'),
    ("preserve", .attached, 'p'), ("recursive", .never, 'r'), ("target-directory", .always, 't'),
    ("update", .attached, 'u'), ("verbose", .never, 'v')] fun o => do
  if o.has 'n' then
    Act.warn ("warning: behavior of -n is non-portable and may change in future; "
      ++ "use --update=none instead").toList
  for (source, target) in ← goals o do
    copy o 64 source target

/-- Gives a file another name. -/
def move (o : Options) (source target : Bytes) : Act Unit := do
  match ← nodeAt false (Path.withoutSlashes source) with
  | .error t => Act.complain (Files.cannot "cannot stat" source t)
  | .ok (from_, k) =>
    let s ← get
    let isFolder := (s.disk.entries? k).isSome
    let fail (t : Trouble) : Act Unit :=
      Act.complain ("cannot move ".toList ++ quotedName source ++ " to ".toList ++ quotedName target
        ++ ": ".toList ++ t.message)
    let place := s.disk.place false s.directory (Path.withoutSlashes target)
    match place with
    | .error t => fail t
    | .ok p =>
      let wrongName := p.node.isNone && target.getLast? = some '/' && !isFolder
      let oldFolder := (p.node.map fun n => (s.disk.entries? n).isSome).getD false
      let fullFolder := (p.node.bind s.disk.entries?).any (!·.isEmpty)
      if wrongName then fail .notDirectory
      else if p.node = some k && from_.directory = p.directory && from_.name = p.name
          && !isFolder then
        Act.complain (quotedName source ++ " and ".toList ++ quotedName target
          ++ " are the same file".toList)
      else if isFolder && isWithin s.disk 64 p.directory k then
        Act.complain ("cannot move ".toList ++ quotedName source
          ++ " to a subdirectory of itself, ".toList ++ quotedName target)
      else if isFolder && p.node.isSome && !oldFolder then
        Act.complain ("cannot overwrite non-directory ".toList ++ quotedName target
          ++ " with directory ".toList ++ quotedName source)
      else if !isFolder && oldFolder then
        Act.complain ("cannot overwrite directory ".toList ++ quotedName target
          ++ " with non-directory".toList)
      else if fullFolder then fail .notEmpty
      else if p.node.isSome && o.last? "nfi" = some 'n' then
        Act.complain ("not replacing ".toList ++ quotedName target)
      else if ← (if p.node.isSome then replaces o target else pure true) then
        Act.changeDisk fun d =>
          (d.removeName from_.directory from_.name s.clock).addName p.directory p.name k s.clock
        tell o "renamed " " -> " source target

/-- Gives files other names. -/
def mv : Executable := withOptions "bfint:uvTZS:"
  [("force", .never, 'f'), ("interactive", .never, 'i'), ("no-clobber", .never, 'n'),
    ("no-target-directory", .never, 'T'), ("target-directory", .always, 't'),
    ("update", .attached, 'u'), ("verbose", .never, 'v')] fun o => do
  for (source, target) in ← goals o do
    move o source target

/-- Makes a link, or a second name of a file. -/
def link (o : Options) (source target : Bytes) : Act Unit := do
  let s ← get
  let isSoft := o.has 's'
  let what := if isSoft then "failed to create symbolic link" else "failed to create hard link"
  let make (k : Option Nat) : Act Unit := do
    match s.disk.place false s.directory target with
    | .error t => Act.complain (Files.cannot what target t)
    | .ok p =>
      if p.node.isSome && !o.has 'f' then Act.complain (Files.cannot what target .present)
      else do
        match k with
        | some k => Act.changeDisk fun d => d.addName p.directory p.name k s.clock
        | none =>
          Act.changeDisk fun d =>
            ((d.removeName p.directory p.name s.clock).create p.directory p.name
              ⟨.link source, 0o777, s.clock⟩).1
        tell o "" (if isSoft then " -> " else " => ") target source
  if isSoft then make none
  else match ← nodeAt (o.has 'L') source with
    | .error t => Act.complain (Files.cannot "failed to access" source t)
    | .ok (_, k) =>
      if (s.disk.entries? k).isSome then
        Act.complain (source ++ ": hard link not allowed for directory".toList)
      else make (some k)

/-- Makes links, or more names of files. -/
def ln : Executable := withOptions "bdfFiLnPrst:vTS:"
  [("force", .never, 'f'), ("interactive", .never, 'i'), ("logical", .never, 'L'),
    ("no-dereference", .never, 'n'), ("no-target-directory", .never, 'T'),
    ("physical", .never, 'P'), ("symbolic", .never, 's'), ("target-directory", .always, 't'),
    ("verbose", .never, 'v')] fun o => do
  match o.operands with
  | [only] => link o only (Path.last only)
  | _ =>
    for (source, target) in ← goals o do
      link o source target

end ActionTree.Sh.Copies
