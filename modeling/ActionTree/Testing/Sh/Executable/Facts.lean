import ActionTree.Testing.Sh.Calendar
import ActionTree.Testing.Sh.Executable.Listing

/-!
# What is known of files

`stat` prints what is known of files, as a format says.

* `Facts.written`: what a format prints of a file.
* `Facts.stat`: the program.
-/

namespace ActionTree.Sh.Facts

open Listing

/-- A file, how it was named and how much the disk knows of its names. -/
structure Subject where
  path : Bytes
  entry : Listing.Entry
  disk : Disk

namespace Subject

/-- What the file is called. -/
def kindName (s : Subject) : String :=
  match s.entry.node.kind with
  | .file c => if c.size = 0 then "regular empty file" else "regular file"
  | .program _ => "regular file"
  | .directory _ => "directory"
  | .link _ => "symbolic link"
  | .device _ => "character special file"

/-- The bits of what the file is, above those of its permissions. -/
def kindBits (s : Subject) : Nat :=
  match s.entry.node.kind with
  | .file _ | .program _ => 0o100000
  | .directory _ => 0o040000
  | .link _ => 0o120000
  | .device _ => 0o020000

/-- The name with what a link leads to, both between quotes. -/
def linkName (s : Subject) : Bytes :=
  match s.entry.node.kind with
  | .link target => quotedName s.path ++ " -> ".toList ++ quotedName target
  | _ => quotedName s.path

/-- The number of a device, in its two parts. -/
def deviceNumber (s : Subject) : Nat × Nat :=
  match s.entry.node.kind with
  | .device .null => (1, 3)
  | .device .zero => (1, 5)
  | .device .full => (1, 7)
  | .device .terminal => (5, 0)
  | _ => (0, 0)

/-- When the file was written: seconds and nanoseconds. -/
def time (s : Subject) : Int × Nat :=
  let t := s.entry.node.time
  (Calendar.origin + (t / 1000 : Nat), t % 1000 * 1000000)

/-- When the file was written. -/
def timeText (s : Subject) : Bytes :=
  Calendar.written (.ofEpoch s.time.1 s.time.2) "%Y-%m-%d %H:%M:%S.%N %z".toList

end Subject

/-! ## Formats -/

/-- A fact: a text, or a number with its base. -/
inductive Fact where
  | text (cs : Bytes)
  | number (base : Nat) (n : Int)

/-- The fact that a letter names. -/
def fact? (s : Subject) (c : Char) : Option Fact :=
  let n (k : Nat) : Option Fact := some (.number 10 k)
  let node := s.entry.node
  match c with
  | 'a' => some (.number 8 node.mode)
  | 'A' => some (.text (s.entry.letter :: Files.modeLetters node.mode))
  | 'b' => n (s.entry.blocks * 2)
  | 'B' => n 512
  | 'd' => n 65024
  | 'D' => some (.number 16 65024)
  | 'f' => some (.number 16 (s.kindBits + node.mode : Nat))
  | 'F' => some (.text s.kindName.toList)
  | 'g' | 'u' => n 0
  | 'G' | 'U' => some (.text "root".toList)
  | 'h' => n (links s.disk s.entry)
  | 'i' => n s.entry.index
  | 'm' => some (.text ['/'])
  | 'n' => some (.text s.path)
  | 'N' => some (.text s.linkName)
  | 'o' => n 4096
  | 's' => n s.entry.size
  | 't' => some (.number 16 s.deviceNumber.1)
  | 'T' => some (.number 16 s.deviceNumber.2)
  | 'w' | 'x' | 'y' | 'z' => some (.text s.timeText)
  | 'W' | 'X' | 'Y' | 'Z' => some (.number 10 s.time.1)
  | _ => none

/-- A fact as a conversion writes it. -/
def converted (c : Format.Conversion) (f : Fact) : Bytes :=
  match f with
  | .text cs => pad c.left c.width (Format.cut c cs)
  | .number base n =>
    let ds := Format.wholeDigits c base n.natAbs
    let ds := if c.alternate && base = 8 && ds.head? ≠ some '0' then '0' :: ds else ds
    Format.padSigned c (c.zero && c.precision.isNone) (Format.signOf c (n < 0)) ds

/-- What a format that is at most so long prints of a file, behind a text in reverse; whether
escapes count. -/
def writtenOnto (s : Subject) (escapes : Bool) : Nat → Bytes → Bytes → Bytes
  | 0, done, _ => done.reverse
  | n + 1, done, cs =>
    match cs with
    | [] => done.reverse
    | '%' :: rest =>
      let (c, rest) := Format.flags (.plain ' ') rest
      let width := rest.takeWhile Char.isDigit
      let rest := rest.drop width.length
      let (precision, rest) : Option Nat × Bytes := match rest with
        | '.' :: more =>
          let ds := more.takeWhile Char.isDigit
          (some (Text.number ds), more.drop ds.length)
        | _ => (none, rest)
      let c := { c with width := Text.number width, precision := precision }
      match rest with
      | [] => ('%' :: done).reverse
      | '%' :: more => writtenOnto s escapes n ('%' :: done) more
      | letter :: more =>
        let text := ((fact? s letter).map (converted c)).getD ['?']
        writtenOnto s escapes n (text.reverseAux done) more
    | '\\' :: c :: rest =>
      if !escapes then writtenOnto s escapes n ('\\' :: done) (c :: rest)
      else if isOctal c then
        let (code, out) := octal 3 0 (c :: rest)
        writtenOnto s escapes n (byteChar code :: done) out
      else match controlEscape? c with
        | some d => writtenOnto s escapes n (d :: done) rest
        | none => writtenOnto s escapes n (c :: done) rest
    | c :: rest => writtenOnto s escapes n (c :: done) rest

/-- What a format prints of a file. -/
def written (s : Subject) (escapes : Bool) (format : Bytes) : Bytes :=
  writtenOnto s escapes (format.length + 1) [] format

/-- What is printed of a file if no format is given. -/
def whole (s : Subject) : Bytes :=
  let name := match s.entry.node.kind with
    | .link target => s.path ++ " -> ".toList ++ target
    | _ => s.path
  let device : String := match s.entry.node.kind with
    | .device _ => "Device: 0,6\tInode: %-10i  Links: %-5h Device type: %t,%T\n"
    | _ => "Device: 254,0\tInode: %-10i  Links: %h\n"
  "  File: ".toList ++ fed name
    ++ written s false ("  Size: %-10s\tBlocks: %-10b IO Block: %-6o %F\n" ++ device
      ++ "Access: (%04a/%A)  Uid: (%5u/%8U)   Gid: (%5g/%8G)\n"
      ++ "Access: %x\nModify: %y\nChange: %z\n Birth: %w\n").toList

/-- The facts of a file in one row. -/
def terse : Bytes := "%n %s %b %f %u %g %D %i %h %t %T %X %Y %Z %W %o".toList

/-- Prints what is known of files. -/
def stat : Executable := withOptions "c:fLt"
  [("dereference", .never, 'L'), ("file-system", .never, 'f'), ("format", .always, 'c'),
    ("printf", .always, '\x03'), ("terse", .never, 't'), ("cached", .always, '\x04')] fun o => do
  if o.operands.isEmpty then Act.misuse "missing operand".toList
  let s ← get
  for path in o.operands do
    let found :=
      if path ≠ ['-'] then (s.disk.place (o.has 'L') s.directory path).map (·.node)
      else if s.inputFile.isSome then .ok s.inputFile
      else (s.disk.find s.directory "/dev/null".toList).map some
    match found with
    | .error t => Act.complain (Files.cannot "cannot statx" path t)
    | .ok none => Act.complain (Files.cannot "cannot statx" path .absent)
    | .ok (some n) =>
      let subject : Subject := ⟨path, ⟨Path.last path, n, s.disk.node n⟩, s.disk⟩
      match o.last? "c\x03", o.value? 'c', o.value? '\x03' with
      | some '\x03', _, some format => Act.put (written subject true format)
      | some _, some format, _ => Act.put (fed (written subject false format))
      | _, _, _ =>
        Act.put (if o.has 't' then fed (written subject false terse) else whole subject)

end ActionTree.Sh.Facts
