import ActionTree.Testing.Sh.Disk
import ActionTree.Testing.Sh.Pattern

/-!
# Names that fit a pattern

A field with a pattern in it stands for the paths that fit it, in order; if there is none, it stands
for itself. Names that start with a dot only fit patterns that do so too.

* `Glob.paths`: the paths that a field stands for.
-/

namespace ActionTree.Sh.Glob

/-- Is any character of a text one that makes it a pattern? -/
def isPattern (cs : Marked) : Bool := cs.any fun c => !c.1 && ['*', '?', '['].contains c.2

/-- The text without its marks. -/
def plain (cs : Marked) : Bytes := cs.map (·.2)

/-- The parts of a text between its slashes. -/
def parts (cs : Marked) : List Marked :=
  cs.foldr (fun c ps => if c.2 = '/' then [] :: ps else match ps with
    | [] => [[c]]
    | p :: ps => (c :: p) :: ps) [[]]

/-- The names in a directory that fit a pattern. -/
def names (d : Disk) (directory path : Bytes) (pattern : Marked) : List Bytes :=
  let path := if path.isEmpty then ['.'] else path
  match (d.find directory path).toOption.bind d.entries? with
  | none => []
  | some es =>
    let p := Pattern.ofMarked pattern
    let dotted := pattern.head?.any (·.2 = '.')
    let all := ['.'] :: ['.', '.'] :: es.map (·.1)
    all.filter fun name => (dotted || name.head? ≠ some '.') && p.accepts name

/-- The paths behind a beginning that fit the parts of a pattern. -/
def expand (d : Disk) (directory : Bytes) : List Marked → Bytes → List Bytes
  | [], path => [path]
  | p :: rest, path =>
    let go (name : Bytes) : List Bytes :=
      expand d directory rest (if rest.isEmpty then path ++ name else path ++ name ++ ['/'])
    if isPattern p then (names d directory path p).flatMap go else go (plain p)

/-- Is something at a path? -/
def isThere (d : Disk) (directory path : Bytes) : Bool :=
  match d.place false directory path with
  | .ok p => p.node.isSome
  | .error _ => false

/-- The paths that a field stands for. -/
def paths (d : Disk) (directory : Bytes) (cs : Marked) : List Bytes :=
  if isPattern cs then
    match (expand d directory (parts cs) []).filter (isThere d directory) with
    | [] => [plain cs]
    | found => found.mergeSort inOrder
  else [plain cs]

end ActionTree.Sh.Glob
