import ActionTree.Testing.Sh.Disk

/-!
# Programs by name

A name without a slash is looked for in the directories of `PATH`.

* `Search.find`: the path of the program of a name.
* `Search.toStart`: the path at which a program is started.
-/

namespace ActionTree.Sh.Search

/-- What comes of looking for a program. -/
inductive Found where
  | path (p : Bytes)
  /-- There is something of the name, but no file. -/
  | denied
  | missing
  deriving DecidableEq

/-- The directories in which programs are, unless a variable says otherwise. -/
def usualPath : Bytes := "/usr/local/sbin:/usr/local/bin:/usr/sbin:/usr/bin:/sbin:/bin".toList

/-- The directories in which programs are if there is no variable that says so. -/
def leastPath : Bytes := "/bin:/usr/bin".toList

/-- The paths at which a program of a name may be in some directories. -/
def candidates (directories name : Bytes) : List Bytes :=
  (splitAt ':' directories).map fun d => if d.isEmpty then name else Path.under d name

/-- The program of a name in one of some directories. -/
def find (d : Disk) (current directories name : Bytes) : Found :=
  (candidates directories name).foldl (fun found path => match found with
    | .path _ => found
    | found => match d.kindAt? current path with
      | some (.file _) | some (.program _) => .path path
      | some _ => .denied
      | none => found) .missing

/-- May a file be started as a program? -/
def isStartable (node : Node) : Bool :=
  match node.kind with
  | .file _ | .program _ => node.mode &&& 0o111 ≠ 0
  | _ => false

/-- Where a program is that can be started, or what is wrong with the name. Files that cannot be
started are passed over, but remembered. -/
def toStart (d : Disk) (current directories name : Bytes) : Except Trouble Bytes :=
  let paths := if name.contains '/' then [name] else candidates directories name
  let found := paths.map fun path => (path, (d.find current path).map d.node)
  match found.find? fun f => f.2.toOption.any isStartable with
  | some (path, _) => .ok path
  | none =>
    if name.isEmpty then .error .absent
    else match found.find? fun f => f.2.toOption.isSome with
      | some _ => .error .denied
      | none => match name.contains '/', found with
        | true, [(_, .error t)] => .error t
        | _, _ => .error .absent

end ActionTree.Sh.Search
