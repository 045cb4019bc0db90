import ActionTree.Testing.Sh.Disk
import ActionTree.Testing.Sh.Format

/-!
# Programs that shell commands start

A program acts on a `Scene`: what it finds when it starts, and what it did up to now. An `Act` is a
computation on a scene that may end the program with a status.

* `Act.put`, `Act.warn`, `Act.complain`, `Act.quit`: output and messages.
* `Act.read`: the content of the file that an operand names, or of the input.
* `linesOf`, `ofLines`: lines of a text.
-/

namespace ActionTree.Sh

/-- How much of its input a program used. -/
inductive Taken where
  | nothing
  /-- So many bytes, behind which there is a rest. -/
  | upTo (n : Nat) (rest : Bytes)
  | all

/-- What a program finds when it starts, and what it did up to now. -/
structure Scene where
  /-- What the program was called. -/
  name : Bytes
  /-- What is left of the input, or why it cannot be read. -/
  input : Except Trouble Bytes
  /-- Would more of the input have come for ever? -/
  inputEndless : Bool
  /-- The file that the input comes from, if it is one. -/
  inputFile : Option Nat
  /-- The file that the output goes to, if it is one. -/
  outputFile : Option Nat
  /-- Why nothing can be written to the output, if that is so. -/
  outputTrouble : Option Trouble
  directory : Bytes
  environment : List (Bytes × Bytes)
  mask : Nat
  /-- The time, in milliseconds. -/
  clock : Nat
  disk : Disk
  /-- What was written, the latest first, each with whether it is a message. -/
  written : List (Bool × Bytes)
  taken : Taken
  /-- How long the program waited, in milliseconds. -/
  slept : Nat
  /-- Would the program go on for ever? -/
  endless : Bool
  /-- The status of failures. -/
  failing : Nat
  /-- What is said of the right use of the program after a wrong one, apart from a hint. -/
  usage : Bytes
  /-- The status with which the program ends if nothing else is said. -/
  status : Nat

/-- A computation of a program; a status ends the program. -/
abbrev Act (α : Type) := ExceptT Nat (StateM Scene) α

/-- A program: it takes its arguments. -/
abbrev Executable := List Bytes → Act Unit

/-- The text with a line feed behind it. -/
def fed (cs : Bytes) : Bytes := cs ++ ['\n']

/-- Text between single quotes. -/
def singly (cs : Bytes) : Bytes := '\x27' :: cs ++ ['\x27']

/-- Can the character be printed? -/
def isPrintable (c : Char) : Bool := ' ' ≤ c && c ≤ '~'

/-- A character that cannot be printed, as an escape. -/
def escapeText (c : Char) : Bytes :=
  match c with
  | '\x07' => "\\a".toList
  | '\x08' => "\\b".toList
  | '\x0c' => "\\f".toList
  | '\n' => "\\n".toList
  | '\r' => "\\r".toList
  | '\t' => "\\t".toList
  | '\x0b' => "\\v".toList
  | c =>
    let ds := Nat.toDigits 8 c.toNat
    '\\' :: List.replicate (3 - ds.length) '0' ++ ds

/-- A text between single quotes, in which quotes, backslashes and characters that cannot be printed
are written as escapes. -/
def visibly (cs : Bytes) : Bytes :=
  singly (cs.flatMap fun c =>
    if c = '\\' || c = '\x27' then ['\\', c]
    else if isPrintable c then [c] else escapeText c)

/-- A name between quotes, as a shell could read it. -/
def quotedName (cs : Bytes) : Bytes :=
  let isTame (c : Char) : Bool := c.isAlphanum || " '%+,-./:]_".toList.contains c
  if cs.contains '\x27' && cs.all isTame then '"' :: cs ++ ['"'] else pieces (cs.length + 1) cs
where
  /-- A text in parts: those that can be printed, and behind each of them what needs escapes. -/
  pieces : Nat → Bytes → Bytes
    | 0, _ => []
    | n + 1, cs =>
      let (plain, rest) := cs.span isPrintable
      let (other, rest) := rest.span (!isPrintable ·)
      let quoted := singly (plain.flatMap fun c => if c = '\x27' then "'\\''".toList else [c])
      let escaped := if other.isEmpty then [] else '$' :: singly (other.flatMap escapeText)
      quoted ++ escaped ++ (if rest.isEmpty then [] else pieces n rest)

/-- A name, between quotes if a shell would take it for more than itself. -/
def shown (cs : Bytes) : Bytes :=
  let isWild (c : Char) : Bool := !isPrintable c || " '!\"$&()*;<=>[^`|?\\".toList.contains c
  let startsWild := match cs with
    | [] | ['\x7b'] | ['\x7d'] | '#' :: _ | '~' :: _ => true
    | _ => false
  if startsWild || cs.any isWild then quotedName cs else cs

/-- The lines of a text between line feeds, or other separators. -/
def linesBy (separator : Char) (cs : Bytes) : List Bytes :=
  let ls := splitAt separator cs
  if ls.getLast? = some [] then ls.dropLast else ls

/-- The lines of a text, without their line feeds. -/
def linesOf (cs : Bytes) : List Bytes := linesBy '\n' cs

/-- Lines as a text; each ends with a line feed. -/
def ofLines (ls : List Bytes) : Bytes := ls.flatMap fed

namespace Act

/-- Writes to the output. -/
def put (text : Bytes) : Act Unit :=
  modify fun s => { s with written := (false, text) :: s.written }

/-- Writes to the output for messages. -/
def putMessage (text : Bytes) : Act Unit :=
  modify fun s => { s with written := (true, text) :: s.written }

/-- Writes a message. -/
def warn (what : Bytes) : Act Unit := do
  putMessage ((← get).name ++ ": ".toList ++ fed what)

/-- Sets the status with which the program ends if nothing else is said. -/
def setStatus (n : Nat) : Act Unit := modify fun s => { s with status := n }

/-- Sets the status of failures. -/
def setFailing (n : Nat) : Act Unit := modify fun s => { s with failing := n }

/-- Writes a message on a failure with which the program goes on. -/
def complain (what : Bytes) : Act Unit := do
  warn what
  setStatus (← get).failing

/-- Ends the program with a status. -/
def finish {α : Type} (status : Nat) : Act α := throw status

/-- Writes a message and ends the program. -/
def quit {α : Type} (what : Bytes) : Act α := do
  warn what
  finish (← get).failing

/-- Writes where more is said about the program, and ends it. -/
def refer {α : Type} : Act α := do
  let s ← get
  putMessage (s.usage ++ fed ("Try '".toList ++ s.name ++ " --help' for more information.".toList))
  finish s.failing

/-- Writes a message on a wrong use of the program, and ends it. -/
def misuse {α : Type} (what : Bytes) : Act α := do
  warn what
  refer

/-! ## Input -/

/-- The node that an operand leads to. -/
def find (arg : Bytes) : Act (Except Trouble Nat) := do
  let s ← get
  return s.disk.find s.directory arg

/-- The input, or a part of it, is taken: what is left of it is said. -/
def take (n : Nat) (rest : Bytes) : Act Unit :=
  modify fun s =>
    let before := match s.taken with
      | .upTo k _ => k
      | _ => 0
    let whole := rest.isEmpty && s.inputEndless
    { s with
      input := .ok rest
      taken := if whole then .all else .upTo (before + n) rest }

/-- All that is left of the input. -/
def readInput : Act (Except Trouble Bytes) := do
  let s ← get
  match s.input with
  | .error t => return .error t
  | .ok text => do
    set { s with input := .ok [], taken := .all, endless := s.endless || s.inputEndless }
    return .ok text

/-- The content of a node, of which all is read. -/
def readNode (n : Nat) : Act (Except Trouble Bytes) := do
  let s ← get
  match s.disk.kind n with
  | .device (.descriptor 0) => readInput
  | .device (.descriptor _) => return .ok []
  | .device .zero | .device .full => do
    set { s with endless := true }
    return s.disk.textOf n
  | _ => return s.disk.textOf n

/-- The content of the file that an operand names, `-` for the input, or what is wrong with it. -/
def read (arg : Bytes) : Act (Except Trouble Bytes) := do
  if arg = ['-'] then readInput
  else match ← find arg with
    | .ok n => readNode n
    | .error t => return .error t

/-- The content of a node of which not all may be read. -/
def peek (arg : Bytes) : Act (Except Trouble Bytes) := do
  let s ← get
  if arg = ['-'] then return s.input
  else match ← find arg with
    | .ok n => return match s.disk.kind n with
      | .device (.descriptor 0) => s.input
      | _ => s.disk.textOf n
    | .error t => return .error t

/-- The operands, or the input in place of none. -/
def orInput (args : List Bytes) : List Bytes := if args.isEmpty then [['-']] else args

/-- The contents of all files that operands name, each with its operand; for one that cannot be read
a message is written. -/
def readAll (message : Bytes → Trouble → Bytes) (args : List Bytes) :
    Act (List (Bytes × Bytes)) := do
  let mut found := []
  for arg in orInput args do
    match ← read arg with
    | .ok text => found := (arg, text) :: found
    | .error t => complain (message arg t)
  return found.reverse

/-- Asks a question, to which the answer is a line of the input; is it yes? -/
def confirmed (question : Bytes) : Act Bool := do
  let s ← get
  putMessage (s.name ++ ": ".toList ++ question ++ "? ".toList)
  match s.input with
  | .error _ => return false
  | .ok text => do
    let line := text.takeWhile (· ≠ '\n')
    let rest := text.drop (line.length + 1)
    take (text.length - rest.length) rest
    return line.head?.any fun c => c = 'y' || c = 'Y'

/-- What most programs say of a file that cannot be read. -/
def unreadable (arg : Bytes) (t : Trouble) : Bytes := shown arg ++ ": ".toList ++ t.message

/-! ## The disk -/

/-- Changes the disk. -/
def changeDisk (f : Disk → Disk) : Act Unit := modify fun s => { s with disk := f s.disk }

/-- Where a path leads. -/
def place (follow : Bool) (arg : Bytes) : Act (Except Trouble Place) := do
  let s ← get
  return s.disk.place follow s.directory arg

/-- The value of a variable that programs are given. -/
def setting? (name : String) : Act (Option Bytes) := do
  return ((← get).environment.find? (·.1 = name.toList)).map (·.2)

/-- Writes a text to the file that an operand names, at its start or at its end. The result is what
is wrong, if anything. -/
def writeFile (append : Bool) (arg text : Bytes) : Act (Option Trouble) := do
  let s ← get
  match s.disk.place true s.directory arg with
  | .error t => return some t
  | .ok p =>
    match p.node with
    | none => do
      let node : Node := ⟨.file (.ofText text), 0o666 - (0o666 &&& s.mask), s.clock⟩
      set { s with disk := (s.disk.create p.directory p.name node).1 }
      return none
    | some n =>
      match s.disk.kind n with
      | .file c => do
        let content := if append then c.append text else .ofText text
        changeDisk fun d => d.updateNode n fun node =>
          { node with kind := .file content, time := s.clock }
        return none
      | .directory _ => return some .isDirectory
      | .device .full => return if text.isEmpty then none else some .noSpace
      | .device .terminal => return some .noDevice
      | .device (.descriptor 1) => do
        put text
        return none
      | .device (.descriptor 2) => do
        putMessage text
        return none
      | _ => return none

end Act

end ActionTree.Sh
