import ActionTree.Testing.Sh.Account
import ActionTree.Testing.Sh.Executable.Listing
import ActionTree.Testing.Sh.Expression.Basic
import ActionTree.Testing.Sh.Pattern

/-!
# Searching directories

A search comes to one `Site` after another and carries out a `Clause` at each: tests, joined with
one another, and deeds.

* `Walk.Test.holds`: does a test hold at a site?
-/

namespace ActionTree.Sh.Walk

/-- A file that a search comes to. -/
structure Site where
  path : Bytes
  /-- The path at which the search started. -/
  root : Bytes
  depth : Nat
  index : Nat
  node : Node

/-- How a number is compared with another one. -/
inductive Comparison where
  | equal
  | more
  | less
  deriving DecidableEq

/-- Does a number compare so with another one? -/
def Comparison.holds (c : Comparison) (n bound : Nat) : Bool :=
  match c with
  | .equal => n = bound
  | .more => bound < n
  | .less => n < bound

/-- Which bits of a mode are looked at. -/
inductive Bits where
  | exactly
  | all
  | some
  deriving DecidableEq

/-- What is looked at in a text. -/
inductive Shape where
  | pattern (p : Pattern)
  | expression (e : Expression)

/-- A test of a site. -/
inductive Test where
  /-- The name, the path or the target of a link, in lower case if case is ignored. -/
  | name (ignoresCase : Bool) (s : Shape)
  | path (ignoresCase : Bool) (s : Shape)
  | target (ignoresCase : Bool) (s : Shape)
  /-- What the node is, or what a link leads to. -/
  | kind (followed : Bool) (letters : List Char)
  | empty
  | size (how : Comparison) (n unit : Nat)
  | newer (time : Nat)
  | mode (bits : Bits) (forFiles forDirectories : Nat)
  /-- The number of the user or the group, which is always the same. -/
  | owner (how : Comparison) (n : Nat)
  | links (how : Comparison) (n : Nat)
  | index (how : Comparison) (n : Nat)
  /-- How old the file is, in units in which it has no age. -/
  | age (how : Comparison) (n : Nat)
  | startable
  | always (holds : Bool)

/-- A part of a format. -/
inductive Piece where
  | text (cs : Bytes)
  | field (left zero : Bool) (width : Nat) (kind : Char)

/-- What is done at a site. -/
inductive Deed where
  /-- The path is printed with something behind it. -/
  | print (behind : Bytes)
  | format (pieces : List Piece)
  /-- A program is started, in the directory of the file or where the search was started. -/
  | run (inPlace : Bool) (words : List Bytes)
  /-- The file is kept for a program that is started with many of them. -/
  | keep (number : Nat) (words : List Bytes)
  | delete
  /-- What is below is passed over. -/
  | prune
  /-- The search ends. -/
  | quit

/-- What is carried out at each site; it comes to a truth value. -/
inductive Clause where
  | test (t : Test)
  | deed (d : Deed)
  | not (c : Clause)
  | and (a b : Clause)
  | or (a b : Clause)
  /-- Both are carried out, and the second one counts. -/
  | both (a b : Clause)

/-- Which links are followed. -/
inductive Following where
  | never
  | atStart
  | always
  deriving DecidableEq

/-- How directories are searched. -/
structure Manner where
  following : Following
  least : Nat
  most : Option Nat
  /-- Does what is below come first? -/
  upwards : Bool

namespace Clause

/-- Does a clause hold one of some deeds? -/
def hasDeed (p : Deed → Bool) : Clause → Bool
  | .test _ => false
  | .deed d => p d
  | .not c => hasDeed p c
  | .and a b | .or a b | .both a b => hasDeed p a || hasDeed p b

/-- The deeds of a clause in order. -/
def deeds : Clause → List Deed
  | .test _ => []
  | .deed d => [d]
  | .not c => deeds c
  | .and a b | .or a b | .both a b => deeds a ++ deeds b

end Clause

/-! ## Paths -/

/-- The name of a path: its last part. -/
def baseName (path : Bytes) : Bytes :=
  match (Path.withoutSlashes path).reverse.takeWhile (· ≠ '/') with
  | [] => ['/']
  | name => name.reverse

/-- The directory that a path names, as a text. -/
def dirName (path : Bytes) : Bytes :=
  if path.contains '/' then ((path.reverse.dropWhile (· ≠ '/')).drop 1).reverse else ['.']

namespace Site

/-- The path from the start of the search on. -/
def below (s : Site) : Bytes :=
  let rest := s.path.drop s.root.length
  if s.depth = 0 then [] else if rest.head? = some '/' then rest.drop 1 else rest

/-- The letter of what a node is. -/
def letter (k : Kind) : Char :=
  match k with
  | .directory _ => 'd'
  | .link _ => 'l'
  | .device _ => 'c'
  | _ => 'f'

/-- The letter of what a link leads to: `N` if that is nothing. -/
def followedLetter (d : Disk) (directory : Bytes) (s : Site) : Char :=
  match s.node.kind with
  | .link _ =>
    match d.kindAt? directory s.path with
    | some k => letter k
    | none => 'N'
  | k => letter k

/-- The site as `ls` would see it. -/
def entry (s : Site) : Listing.Entry := ⟨s.path, s.index, s.node⟩

end Site

/-! ## Tests -/

/-- Does a text have a shape? -/
def Shape.holds (ignoresCase : Bool) (text : Bytes) : Shape → Bool
  | .pattern p => p.accepts (if ignoresCase then text.map Char.toLower else text)
  | .expression e =>
    let s : Subject := ⟨text.toArray, ignoresCase, false⟩
    (e.ends s ⟨0, []⟩).any (·.place = text.length)

/-- Does a test hold at a site? -/
def Test.holds (scene : Scene) (s : Site) : Test → Bool
  | .name ic shape => shape.holds ic (baseName s.path)
  | .path ic shape => shape.holds ic s.path
  | .target ic shape =>
    match s.node.kind with
    | .link t => shape.holds ic t
    | _ => false
  | .kind followed letters =>
    let own := Site.letter s.node.kind
    if followed then
      let other := s.followedLetter scene.disk scene.directory
      letters.contains (if other = 'N' then own else other)
    else letters.contains own
  | .empty =>
    match s.node.kind with
    | .file c => c.size = 0
    | .directory es => es.isEmpty
    | _ => false
  | .size how n unit => how.holds ((s.entry.size + unit - 1) / unit) n
  | .newer time => time < s.node.time
  | .mode bits forFiles forDirectories =>
    let wanted := match s.node.kind with
      | .directory _ => forDirectories
      | _ => forFiles
    match bits with
    | .exactly => s.node.mode = wanted
    | .all => s.node.mode &&& wanted = wanted
    | .some => wanted = 0 || s.node.mode &&& wanted ≠ 0
  | .owner how n | .age how n => how.holds 0 n
  | .links how n => how.holds (Listing.links scene.disk s.entry) n
  | .index how n => how.holds s.index n
  | .startable =>
    match s.node.kind with
    | .directory _ => true
    | _ => s.node.mode &&& 0o111 ≠ 0
  | .always b => b

/-! ## Formats -/

/-- The text of a field. -/
def fieldText (scene : Scene) (s : Site) (kind : Char) : Bytes :=
  let e := s.entry
  match kind with
  | 'p' => s.path
  | 'f' =>
    let name := baseName s.path
    if s.path.getLast? = some '/' && name ≠ ['/'] then name ++ ['/'] else name
  | 'h' => dirName s.path
  | 'P' => s.below
  | 'H' => s.root
  | 's' => decimal e.size
  | 'd' => decimal s.depth
  | 'm' => Nat.toDigits 8 s.node.mode
  | 'M' => e.letter :: Files.modeLetters s.node.mode
  | 'y' => [Site.letter s.node.kind]
  | 'Y' => [s.followedLetter scene.disk scene.directory]
  | 'l' =>
    match s.node.kind with
    | .link t => t
    | _ => []
  | 'u' | 'g' => "root".toList
  | 'U' | 'G' => ['0']
  | 'n' => decimal (Listing.links scene.disk e)
  | 'i' => decimal s.index
  | 'k' => decimal e.blocks
  | 'b' => decimal (2 * e.blocks)
  | c => ['%', c]

/-- What a format prints at a site. -/
def Piece.shown (scene : Scene) (s : Site) : Piece → Bytes
  | .text cs => cs
  | .field left zero width kind =>
    let text := fieldText scene s kind
    if zero && !left && kind = 'd' then List.replicate (width - text.length) '0' ++ text
    else pad left width text

end ActionTree.Sh.Walk
