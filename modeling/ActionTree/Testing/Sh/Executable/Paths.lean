import ActionTree.Testing.Sh.Executable.Options

/-!
# Programs on paths

`basename`, `dirname`, `realpath`, `readlink` and `pwd` print parts of paths, or where they lead.
-/

namespace ActionTree.Sh.Paths

/-- The names of `basename` and `dirname`. -/
def zeroName : String × ValueUse × Char := ("zero", .never, 'z')

/-- The last part of a path, without an ending that it may have. -/
def bare (ending path : Bytes) : Bytes :=
  let last := Path.last path
  let short := last.take (last.length - ending.length)
  if ending.isSuffixOf last && !short.isEmpty && last ≠ ['/'] then short else last

/-- The last part of paths, without an ending that they may have. -/
def basename : Executable := fun args => do
  let o ← Options.read ⟨"as:z",
    [("multiple", .never, 'a'), ("suffix", .always, 's'), zeroName], false⟩ args
  let feed := if o.has 'z' then '\x00' else '\n'
  match o.operands, o.has 'a' || o.has 's' with
  | [], _ => Act.misuse "missing operand".toList
  | paths, true =>
    Act.put (paths.flatMap fun path => bare ((o.value? 's').getD []) path ++ [feed])
  | [path], false => Act.put (bare [] path ++ [feed])
  | [path, ending], false => Act.put (bare ending path ++ [feed])
  | _ :: _ :: extra :: _, false => Act.misuse ("extra operand ".toList ++ visibly extra)

/-- A path without its last part. -/
def above (path : Bytes) : Bytes :=
  let isSlash (c : Char) : Bool := c = '/'
  let rest := ((path.reverse.dropWhile isSlash).dropWhile (!isSlash ·)).dropWhile isSlash
  if !rest.isEmpty then rest.reverse
  else if Path.isAbsolute path then ['/'] else ['.']

/-- Paths without their last parts. -/
def dirname : Executable := withOptions "z" [zeroName] fun o => do
  if o.operands.isEmpty then Act.misuse "missing operand".toList
  Act.put (o.operands.flatMap fun path => above path ++ [if o.has 'z' then '\x00' else '\n'])

/-- The path without links that a path leads to. Either all of it has to be there, or all but the
last part, or nothing. -/
def resolve (mustExist mayMiss : Bool) (arg : Bytes) : Act (Except Trouble Bytes) := do
  let s ← get
  match s.disk.place true s.directory (Path.withoutSlashes arg) with
  | .ok p =>
    if p.node.isNone && mustExist then return .error .absent
    else return .ok p.path
  | .error t =>
    if mayMiss then return .ok (Path.absolute s.directory arg) else return .error t

/-- The paths without links that paths lead to. -/
def realpath : Executable := withOptions "eLmPqsz"
  [("canonicalize-existing", .never, 'e'), ("canonicalize-missing", .never, 'm'),
    ("logical", .never, 'L'), ("no-symlinks", .never, 's'), ("physical", .never, 'P'),
    ("quiet", .never, 'q'), ("strip", .never, 's'), zeroName] fun o => do
  if o.operands.isEmpty then Act.misuse "missing operand".toList
  let feed := if o.has 'z' then '\x00' else '\n'
  let s ← get
  for arg in o.operands do
    match ← resolve (o.has 'e') (o.has 'm') arg with
    | .ok path =>
      Act.put ((if o.has 's' then Path.absolute s.directory arg else path) ++ [feed])
    | .error t =>
      if o.has 'q' then Act.setStatus 1 else Act.complain (Act.unreadable arg t)

/-- Where links lead. -/
def readlink : Executable := withOptions "efmnqsvz"
  [("canonicalize", .never, 'f'), ("canonicalize-existing", .never, 'e'),
    ("canonicalize-missing", .never, 'm'), ("no-newline", .never, 'n'), ("quiet", .never, 'q'),
    ("silent", .never, 's'), ("verbose", .never, 'v'), zeroName] fun o => do
  if o.operands.isEmpty then Act.misuse "missing operand".toList
  let feed : Bytes := if o.has 'z' then ['\x00'] else if o.has 'n' then [] else ['\n']
  for arg in o.operands do
    let found ← match o.last? "efm" with
      | some c => resolve (c = 'e') (c = 'm') arg
      | none => do
        let s ← get
        pure (match s.disk.place false s.directory arg with
          | .error t => .error t
          | .ok p => match p.node.map s.disk.kind with
            | some (.link target) => .ok target
            | some _ => .error .invalid
            | none => .error .absent)
    match found with
    | .ok path => Act.put (path ++ feed)
    | .error t =>
      if o.has 'v' then Act.complain (Act.unreadable arg t) else Act.setStatus 1

/-- The working directory. -/
def pwd : Executable := withOptions "LP" [("logical", .never, 'L'), ("physical", .never, 'P')]
  fun o => do
  if !o.operands.isEmpty then Act.warn "ignoring non-option arguments".toList
  let s ← get
  match ← resolve true false s.directory with
  | .ok path => Act.put (fed path)
  | .error t => Act.quit t.message

end ActionTree.Sh.Paths
