import ActionTree.Testing.Sh.Plan
import ActionTree.Testing.Sh.Walk.Basic
import ActionTree.Testing.Sh.Walk.Reader

/-!
# Carrying out searches

A search goes from site to site. What it does becomes a plan, because programs may be started at any
site and what they do is seen from then on.

* `Walk.judge`: a clause at a site.
* `Walk.walk`: the sites one after another.
* `Finding.find`: the program `find`.
-/

namespace ActionTree.Sh.Walk

/-- How far a search has come. -/
structure Progress where
  /-- What is there. -/
  scene : Scene
  failed : Bool
  /-- Is what is below the site passed over? -/
  pruned : Bool
  /-- The files that are kept for programs, the latest first, by the numbers of these. -/
  kept : List (Nat × Bytes)

/-- What a program says that was started and does not say it on its own, if anything. -/
def remark (words : List Bytes) : Ending → Option Bytes
  | .missing t => some (visibly (words.headD []) ++ ": ".toList ++ t.message)
  | .signal n =>
    some (visibly (words.headD []) ++ " terminated by signal ".toList ++ decimal n)
  | _ => none

/-- Did a program succeed? -/
def Ending.isSuccess : Ending → Bool
  | .status 0 => true
  | _ => false

/-- Starts a program and goes on. -/
def starting (p : Progress) (s : Start) (next : Bool → Progress → Plan) : Plan :=
  .start s fun ending =>
    let say : Act Unit := match remark s.words ending with
      | some what => Act.warn what
      | none => pure ()
    .act say fun scene => next (Ending.isSuccess ending) { p with scene := scene }

/-- Each pair of braces in a word with a path in its place. -/
def filled (path : Bytes) : Bytes → Bytes
  | '\x7b' :: '\x7d' :: rest => path ++ filled path rest
  | c :: rest => c :: filled path rest
  | [] => []

/-- Removes a file or an empty directory. -/
def remove (s : Site) : Act Unit := do
  let scene ← get
  let fail (t : Trouble) : Act Unit :=
    Act.complain ("cannot delete ".toList ++ visibly s.path ++ ": ".toList ++ t.message)
  if s.path ≠ ['.'] then
    match scene.disk.place false scene.directory (Path.withoutSlashes s.path) with
    | .error t => fail t
    | .ok p =>
      match p.node.map scene.disk.kind with
      | none => fail .absent
      | some (.directory (_ :: _)) => fail .notEmpty
      | some _ => Act.changeDisk fun d => d.removeName p.directory p.name scene.clock

/-- The program of a deed as it is started for some words. -/
def startFor (scene : Scene) (inPlace : Bool) (site : Site) (words : List Bytes) : Start :=
  let path := if inPlace then "./".toList ++ baseName site.path else site.path
  let directory :=
    if inPlace then
      match scene.disk.place true scene.directory (dirName site.path) with
      | .ok p => p.path
      | .error _ => scene.directory
    else scene.directory
  { Start.inScene scene (words.map (filled path)) with directory := directory }

/-- Carries out a clause at a site and goes on with its truth value; `stop` is how the search ends.
-/
def judge (stop : Progress → Plan) (site : Site) :
    Clause → Progress → (Bool → Progress → Plan) → Plan
  | .test t, p, next => next (t.holds p.scene site) p
  | .not c, p, next => judge stop site c p fun b p => next (!b) p
  | .and a b, p, next =>
    judge stop site a p fun r p => if r then judge stop site b p next else next false p
  | .or a b, p, next =>
    judge stop site a p fun r p => if r then next true p else judge stop site b p next
  | .both a b, p, next => judge stop site a p fun _ p => judge stop site b p next
  | .deed d, p, next =>
    match d with
    | .print behind =>
      .act (Act.put (site.path ++ behind)) fun scene => next true { p with scene := scene }
    | .format pieces =>
      .act (Act.put (pieces.flatMap (Piece.shown p.scene site))) fun scene =>
        next true { p with scene := scene }
    | .run inPlace words => starting p (startFor p.scene inPlace site words) next
    | .keep number _ => next true { p with kept := (number, site.path) :: p.kept }
    | .delete =>
      .act (remove site) fun scene =>
        next (scene.status = 0) { p with scene := scene, failed := p.failed || scene.status ≠ 0 }
    | .prune => next true { p with pruned := true }
    | .quit => stop p

/-- Starts the programs that files were kept for, and ends the search. -/
def conclude : List (Nat × List Bytes) → Progress → Plan
  | [], p => .finish (if p.failed then 1 else 0)
  | (number, words) :: rest, p =>
    let paths := (p.kept.filter (·.1 = number)).reverse.map (·.2)
    if paths.isEmpty then conclude rest p
    else starting p (.inScene p.scene (words ++ paths)) fun good p =>
      conclude rest { p with failed := p.failed || !good }

/-! ## Sites -/

/-- What a search still has to do. -/
inductive Step where
  /-- It comes to a path, below the directories of some numbers and paths. -/
  | visit (path root : Bytes) (depth : Nat) (above : List (Nat × Bytes))
  /-- It comes back to a site when what is below it is done. -/
  | back (s : Site)

/-- The site at a path, with links followed or not; one that leads nowhere is a site itself. -/
def siteAt (scene : Scene) (follow : Bool) (path root : Bytes) (depth : Nat) :
    Except Trouble Site := do
  let followed : Option Nat := if follow then (scene.disk.find scene.directory path).toOption
    else none
  match followed with
  | some n => return ⟨path, root, depth, n, scene.disk.node n⟩
  | none =>
    match (← scene.disk.place false scene.directory path).node with
    | some n => return ⟨path, root, depth, n, scene.disk.node n⟩
    | none => throw .absent

/-- Is what is in a site searched? -/
def enters (m : Manner) (d : Disk) (s : Site) : Bool :=
  (d.entries? s.index).isSome && !m.most.any (· ≤ s.depth)

/-- The steps to what is in a directory. -/
def stepsInto (m : Manner) (above : List (Nat × Bytes)) (d : Disk) (s : Site) : List Step :=
  if !enters m d s then []
  else (((d.entries? s.index).getD []).reverse).map fun e =>
    .visit (Path.under s.path e.1) s.root (s.depth + 1) ((s.index, s.path) :: above)

/-- Goes on after a message on a failure. -/
def failing (p : Progress) (what : Bytes) (next : Progress → Plan) : Plan :=
  .act (Act.warn what) fun scene => next { p with scene := scene, failed := true }

/-- Takes so many steps at most. -/
def walk (m : Manner) (c : Clause) (stop : Progress → Plan) : Nat → List Step → Progress → Plan
  | 0, _, p => stop p
  | _ + 1, [], p => stop p
  | n + 1, .back s :: rest, p =>
    if s.depth < m.least then walk m c stop n rest p
    else judge stop s c { p with pruned := false } fun _ p => walk m c stop n rest p
  | n + 1, .visit path root depth above :: rest, p =>
    let follow := m.following = .always || (m.following = .atStart && depth = 0)
    match siteAt p.scene follow path root depth with
    | .error t =>
      failing p (visibly path ++ ": ".toList ++ t.message) (walk m c stop n rest)
    | .ok s =>
      match above.find? (·.1 = s.index) with
      | some (_, upper) =>
        failing p ("File system loop detected; ".toList ++ visibly path
          ++ " is part of the same file system loop as ".toList ++ visibly upper ++ ['.'])
          (walk m c stop n rest)
      | none =>
        let into := stepsInto m above p.scene.disk s
        if m.upwards then walk m c stop n (into ++ .back s :: rest) p
        else
          let enter (p : Progress) : Plan :=
            if p.pruned || !enters m p.scene.disk s then walk m c stop n rest p
            else match siteAt p.scene follow path root depth with
              | .error t =>
                failing p (visibly path ++ ": ".toList ++ t.message) (walk m c stop n rest)
              | .ok s => walk m c stop n (stepsInto m above p.scene.disk s ++ rest) p
          let p := { p with pruned := false }
          if depth < m.least then enter p else judge stop s c p fun _ p => enter p

/-- The programs that a clause keeps files for. -/
def keepers (c : Clause) : List (Nat × List Bytes) :=
  c.deeds.filterMap fun d => match d with
    | .keep number words => some (number, words)
    | _ => none

/-- How many steps a search takes at most. -/
def mostSteps : Nat := 1000000

/-- A search from some paths on. -/
def plan (roots : List Bytes) (m : Manner) (c : Clause) (scene : Scene) : Plan :=
  walk m c (conclude (keepers c)) mostSteps (roots.map fun r => .visit r r 0 [])
    ⟨scene, false, false, []⟩

end ActionTree.Sh.Walk

namespace ActionTree.Sh.Finding

/-- Searches directories: prints paths, or does something with files. -/
def find : Delegate := fun args => do
  if args.any fun a => ["-help", "--help", "-version", "--version"].contains (String.ofList a) then
    Act.finish 0
  let s ← Walk.Reader.search args
  return Walk.plan s.roots s.manner s.clause (← get)

end ActionTree.Sh.Finding
