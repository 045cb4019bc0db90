import ActionTree.Testing.Sh.Account

/-!
# Files

What shell commands see of a disk: the usual directories, the devices and programs that are always
there, and what commands made. Everything on a disk is a node with a number; a directory maps names
to nodes, so that a node may have several names, or none while it is still open.

* `Path.absolute`: the path that a text means in a directory, links left aside.
* `Disk.find`: where a path leads, links followed.
* `Content`: what is in a file.
-/

namespace ActionTree.Sh

/-- A text between separators. -/
def splitAt (separator : Char) (cs : Bytes) : List Bytes :=
  cs.foldr (fun c ps => if c = separator then [] :: ps else match ps with
    | [] => [[c]]
    | p :: ps => (c :: p) :: ps) [[]]

namespace Path

/-- The parts of a path between its slashes. -/
def parts (cs : Bytes) : List Bytes := (splitAt '/' cs).filter (!·.isEmpty)

/-- The parts of a path with single and double dots carried out, behind parts in reverse. -/
def walk : List Bytes → List Bytes → List Bytes
  | done, [] => done.reverse
  | done, ['.'] :: rest => walk done rest
  | done, ['.', '.'] :: rest => walk done.tail rest
  | done, p :: rest => walk (p :: done) rest

/-- The absolute path of parts. -/
def ofParts (ps : List Bytes) : Bytes := '/' :: ['/'].intercalate ps

/-- Does a path start at the root? -/
def isAbsolute (path : Bytes) : Bool := path.head? = some '/'

/-- The absolute path that a text means in a directory, if no part of it is a link. -/
def absolute (directory path : Bytes) : Bytes :=
  ofParts (walk [] (if isAbsolute path then parts path else parts directory ++ parts path))

/-- A path in a directory. -/
def under (directory name : Bytes) : Bytes :=
  if directory.getLast? = some '/' then directory ++ name else directory ++ '/' :: name

/-- The path without the slashes at its end. -/
def withoutSlashes (path : Bytes) : Bytes :=
  match (path.reverse.dropWhile (· = '/')).reverse with
  | [] => path.take 1
  | bare => bare

/-- The last part of a path. -/
def last (path : Bytes) : Bytes := ((parts path).getLast?).getD (path.take 1)

end Path

/-- Why something cannot be done with a file or a descriptor. -/
inductive Trouble where
  | absent
  | notDirectory
  | isDirectory
  | present
  | notEmpty
  | tooManyLinks
  | tooLong
  | denied
  | notPermitted
  | badDescriptor
  | noSpace
  | noDevice
  | invalid
  deriving DecidableEq

/-- What is said of trouble. -/
def Trouble.message : Trouble → Bytes
  | absent => "No such file or directory".toList
  | notDirectory => "Not a directory".toList
  | isDirectory => "Is a directory".toList
  | present => "File exists".toList
  | notEmpty => "Directory not empty".toList
  | tooManyLinks => "Too many levels of symbolic links".toList
  | tooLong => "File name too long".toList
  | denied => "Permission denied".toList
  | notPermitted => "Operation not permitted".toList
  | badDescriptor => "Bad file descriptor".toList
  | noSpace => "No space left on device".toList
  | noDevice => "No such device or address".toList
  | invalid => "Invalid argument".toList

/-- What is in a file: its bytes, the last one first, and how many they are. -/
structure Content where
  reversed : Bytes
  size : Nat

namespace Content

/-- The empty file. -/
def empty : Content := ⟨[], 0⟩

/-- The text of a file. -/
def text (c : Content) : Bytes := c.reversed.reverse

/-- A file with a text. -/
def ofText (cs : Bytes) : Content := ⟨cs.reverse, cs.length⟩

/-- A file with more text at its end. -/
def append (c : Content) (cs : Bytes) : Content := ⟨cs.reverseAux c.reversed, c.size + cs.length⟩

/-- A file with a size: cut off, or filled up with zero bytes. -/
def resize (c : Content) (n : Nat) : Content :=
  if n ≤ c.size then ⟨c.reversed.drop (c.size - n), n⟩
  else ⟨List.replicate (n - c.size) '\x00' ++ c.reversed, n⟩

/-- A file with a text from an offset on, which takes the place of what was there. -/
def overwrite (c : Content) (offset : Nat) (cs : Bytes) : Content :=
  if offset = c.size then c.append cs
  else
    let behind := c.reversed.take (c.size - (offset + cs.length))
    let whole := ((c.resize (min offset c.size)).resize offset).append cs
    ⟨behind ++ whole.reversed, whole.size + behind.length⟩

end Content

/-- A device. -/
inductive Device where
  /-- It reads as an empty file, and what is written to it is lost. -/
  | null
  /-- It reads as zero bytes without end. -/
  | zero
  /-- Nothing can be written to it. -/
  | full
  /-- There is no terminal. -/
  | terminal
  /-- A descriptor of the process that opens it. -/
  | descriptor (n : Nat)
  deriving DecidableEq

/-- What a node is. -/
inductive Kind where
  | file (c : Content)
  | directory (entries : List (Bytes × Nat))
  | link (target : Bytes)
  | device (d : Device)
  /-- A program that is part of the system. -/
  | program (name : Bytes)

/-- A node of a disk: what it is, its permission bits and when it was written. -/
structure Node where
  kind : Kind
  mode : Nat
  time : Nat

instance : Inhabited Node := ⟨⟨.directory [], 0o755, 0⟩⟩

/-- A disk: its nodes by number, from the root on. -/
structure Disk where
  nodes : Array Node

/-- A directory on the way of a path: its node and its name. -/
structure Way where
  node : Nat
  name : Bytes

/-- Where a path leads: a name in a directory, and the node that it names, if there is one. The
directory is the first of those on the way, the root is the last. The name is empty if the path
leads to that directory itself. -/
structure Place where
  way : List Way
  name : Bytes
  node : Option Nat

/-- The root as a way. -/
def Way.root : Way := ⟨0, []⟩

/-- The directory that a way leads to. -/
def Way.end_ (way : List Way) : Nat := (way.headD .root).node

namespace Place

/-- The directory of a place. -/
def directory (p : Place) : Nat := Way.end_ p.way

/-- The absolute path of a place, without links. -/
def path (p : Place) : Bytes :=
  let names := (p.name :: p.way.map (·.name)).reverse
  Path.ofParts (names.filter (!·.isEmpty))

end Place

namespace Disk

/-- A node. -/
def node (d : Disk) (n : Nat) : Node := d.nodes.getD n default

/-- What a node is. -/
def kind (d : Disk) (n : Nat) : Kind := (d.node n).kind

/-- The names in a directory with their nodes. -/
def entries? (d : Disk) (n : Nat) : Option (List (Bytes × Nat)) :=
  match d.kind n with
  | .directory es => some es
  | _ => none

/-- The longest name. -/
def longestName : Nat := 255

/-- Where parts of a path lead behind a way. At most so many steps are made. -/
def walk (d : Disk) (follow : Bool) : Nat → List Way → List Bytes → Except Trouble Place
  | 0, _, _ => .error .tooManyLinks
  | _ + 1, way, [] => .ok ⟨way, [], some (Way.end_ way)⟩
  | n + 1, way, p :: rest =>
    match d.entries? (Way.end_ way) with
    | none => .error .notDirectory
    | some es =>
      if p = ['.'] then walk d follow n way rest
      else if p = ['.', '.'] then
        walk d follow n (if way.tail.isEmpty then way else way.tail) rest
      else if longestName < p.length then .error .tooLong
      else match es.find? (·.1 = p) with
        | none => if rest.isEmpty then .ok ⟨way, p, none⟩ else .error .absent
        | some (_, k) =>
          match d.kind k with
          | .link target =>
            if rest.isEmpty && !follow then .ok ⟨way, p, some k⟩
            else
              walk d follow n (if Path.isAbsolute target then [.root] else way)
                (Path.parts target ++ rest)
          | .directory _ =>
            if rest.isEmpty then .ok ⟨way, p, some k⟩ else walk d follow n (⟨k, p⟩ :: way) rest
          | _ => if rest.isEmpty then .ok ⟨way, p, some k⟩ else .error .notDirectory

/-- Where a path leads that is used in a directory. A slash at its end asks for a directory. A link
at its end is followed or not. -/
def place (d : Disk) (follow : Bool) (directory path : Bytes) : Except Trouble Place :=
  if path.isEmpty then .error .absent
  else
    let whole := if Path.isAbsolute path then path else Path.under directory path
    let parts := Path.parts whole ++ (if whole.getLast? = some '/' then [['.']] else [])
    d.walk follow (parts.length + 400) [.root] parts

/-- The node that a path leads to. -/
def find (d : Disk) (directory path : Bytes) : Except Trouble Nat := do
  match (← d.place true directory path).node with
  | some n => return n
  | none => throw .absent

/-- What a path leads to. -/
def kindAt? (d : Disk) (directory path : Bytes) : Option Kind :=
  ((d.find directory path).toOption).map d.kind

/-- Does a path lead to a directory? -/
def isDirectory (d : Disk) (directory path : Bytes) : Bool :=
  match d.kindAt? directory path with
  | some (.directory _) => true
  | _ => false

/-- The disk with another node in the place of one. -/
def setNode (d : Disk) (n : Nat) (node : Node) : Disk := ⟨d.nodes.setIfInBounds n node⟩

/-- The disk with a node changed. -/
def updateNode (d : Disk) (n : Nat) (f : Node → Node) : Disk := d.setNode n (f (d.node n))

/-- The disk with the names of a directory changed. -/
def updateEntries (d : Disk) (n time : Nat) (f : List (Bytes × Nat) → List (Bytes × Nat)) : Disk :=
  d.updateNode n fun node => match node.kind with
    | .directory es => { node with kind := .directory (f es), time := time }
    | _ => node

/-- The disk without a name in a directory. -/
def removeName (d : Disk) (directory : Nat) (name : Bytes) (time : Nat) : Disk :=
  d.updateEntries directory time fun es => es.filter (·.1 ≠ name)

/-- The disk with a name for a node in a directory. -/
def addName (d : Disk) (directory : Nat) (name : Bytes) (n time : Nat) : Disk :=
  d.updateEntries directory time fun es => (name, n) :: es.filter (·.1 ≠ name)

/-- The disk with a new node under a name in a directory, and the number of the node. -/
def create (d : Disk) (directory : Nat) (name : Bytes) (node : Node) : Disk × Nat :=
  let n := d.nodes.size
  ((⟨d.nodes.push node⟩ : Disk).addName directory name n node.time, n)

/-- The names in a directory with their nodes, in order. -/
def sortedEntries (d : Disk) (n : Nat) : List (Bytes × Nat) :=
  ((d.entries? n).getD []).mergeSort fun a b => inOrder a.1 b.1

/-- The bytes of an endless device: as many as anybody wants. -/
def endless : Bytes := List.replicate 65536 '\x00'

/-- What can be read from a node. -/
def textOf (d : Disk) (n : Nat) : Except Trouble Bytes :=
  match d.kind n with
  | .file c => .ok c.text
  | .directory _ => .error .isDirectory
  | .device .zero | .device .full => .ok endless
  | .device .terminal => .error .noDevice
  | _ => .ok []

/-- Files that are always there, with what is in them. -/
def present : List (String × String) :=
  [("/etc/group", String.join (Group.all.map Group.line)), ("/etc/hostname", "localhost\n"),
    ("/etc/hosts", "127.0.0.1\tlocalhost\n"),
    ("/etc/passwd", String.join (Account.all.map Account.line)),
    ("/etc/fstab", "# UNCONFIGURED FSTAB FOR BASE SYSTEM\n"),
    ("/etc/shells", "# /etc/shells: valid login shells\n/bin/sh\n/usr/bin/sh\n/bin/bash\n"
      ++ "/usr/bin/bash\n/bin/rbash\n/usr/bin/rbash\n/usr/bin/dash\n")]

/-- The directories that are always there. -/
def usual : List String :=
  ["/boot", "/dev", "/etc", "/home", "/media", "/mnt", "/opt", "/proc", "/root", "/run", "/srv",
    "/sys", "/tmp", "/usr", "/usr/bin", "/usr/include", "/usr/lib", "/usr/local", "/usr/local/bin",
    "/usr/local/lib", "/usr/sbin", "/usr/share", "/var", "/var/lib", "/var/log", "/var/tmp"]

/-- The links that are always there. -/
def links : List (String × String) :=
  [("/bin", "usr/bin"), ("/lib", "usr/lib"), ("/sbin", "usr/sbin"),
    ("/dev/fd", "/proc/self/fd")]

/-- The devices that are always there. -/
def devices : List (String × Device) :=
  [("/dev/null", .null), ("/dev/zero", .zero), ("/dev/full", .full), ("/dev/random", .zero),
    ("/dev/urandom", .zero), ("/dev/tty", .terminal), ("/dev/stdin", .descriptor 0),
    ("/dev/stdout", .descriptor 1), ("/dev/stderr", .descriptor 2)]

/-- The disk with a new node at an absolute path, if the directory above it is there. -/
def withNode (d : Disk) (path : String) (node : Node) : Disk :=
  match d.place false ['/'] path.toList with
  | .ok p => if p.node.isSome then d else (d.create p.directory p.name node).1
  | .error _ => d

/-- The disk on which commands made nothing yet, with programs of some names. -/
def clean (programs : List String) : Disk :=
  let d : Disk := ⟨#[⟨.directory [], 0o755, 0⟩]⟩
  let mode (path : String) : Nat := if path = "/tmp" || path = "/var/tmp" then 0o1777 else 0o755
  let d := usual.foldl (fun d path => d.withNode path ⟨.directory [], mode path, 0⟩) d
  let d := links.foldl (fun d l => d.withNode l.1 ⟨.link l.2.toList, 0o777, 0⟩) d
  let d := present.foldl (fun d f => d.withNode f.1 ⟨.file (.ofText f.2.toList), 0o644, 0⟩) d
  let d := devices.foldl (fun d v => d.withNode v.1 ⟨.device v.2, 0o666, 0⟩) d
  programs.foldl (fun d name =>
    d.withNode ("/usr/bin/" ++ name) ⟨.program name.toList, 0o755, 0⟩) d

end Disk

end ActionTree.Sh
