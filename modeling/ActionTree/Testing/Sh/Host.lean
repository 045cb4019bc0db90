import ActionTree.Testing.Sh.Evaluation
import ActionTree.Program.Conversation
import ActionTree.Tool.Command

/-!
# A double of the system's shell

Tests of the command tool need a shell, and cannot start one. This library has a double for them: a
small shell with the programs that scripts are likely to call. It is no part of the model of the
program, for which shells are given, and no statement about the program mentions it.

* `Finish.ofText`: how a text ends, from its start.
* `Sh.run`: what comes of a command within a number of seconds.
* `Sh.host`, `Sh.sharingHost`: the double, without an input and with the one of the program.
-/

namespace ActionTree.Sh

/-- The variables of an environment, the places of programs among them. -/
def Process.varsOf (environment : Fields Bytes) : List (Bytes × Var) :=
  let path := "PATH".toList
  let vars := environment.reverse.map fun v => (v.1.toList, Var.mk (some v.2) true false)
  if vars.any (·.1 = path) then vars else (path, ⟨some Search.usualPath, true, false⟩) :: vars

/-- The process that starts a shell in an environment, with an input. -/
def Process.root (environment : Fields Bytes) (input : Channel) : Process where
  vars := varsOf environment
  functions := []
  aliases := []
  hashed := []
  directory := ['/']
  name := "sh".toList
  speaker := none
  params := []
  scan := ⟨1, none⟩
  status := 0
  captured := 0
  descriptors := [(0, input), (1, .out), (2, .err)]
  loops := 0
  calls := 0
  options := []
  tested := false
  locals := none
  traps := []
  pid := 2
  shellPid := 2
  lastJob := none
  jobs := []
  mask := 0o22
  limits := []
  clock := 0
  deadlines := []

/-- How many commands a text may carry out. -/
def mostSteps : Nat := 300000

/-- A machine on which nothing was done yet, and whose input is open if there is anything in it. -/
def Machine.clean (environment : Fields Bytes) (input : Bytes) : Machine where
  process := .root environment (if input.isEmpty then .nothing else .stream 0)
  out := []
  err := []
  captures := []
  nextCapture := 0
  streams := if input.isEmpty then #[] else #[⟨.text input 0 false, true, false, false⟩]
  disk := .clean Executable.names
  tasks := []
  nextPid := 3
  ancestors := []
  signals := []
  held := 0
  broken := false
  steps := mostSteps

/-- The bound on the depth of evaluation. -/
def depth : Nat := 20000

/-- What is left of the input of a machine. -/
def Machine.inputLeft (m : Machine) : Bytes :=
  match (m.streams.getD 0 default).opened with
  | .text rest .. => rest
  | _ => []

/-- How a text ended. -/
structure Finish where
  out : Bytes
  err : Bytes
  /-- The status, unless a signal ended the shell. -/
  status : Option Nat
  /-- When everything ended, in milliseconds, if it did. -/
  time : Option Nat
  /-- What it left of the input. -/
  input : Bytes
  deriving DecidableEq

/-- How a text ends that a shell is given in an environment, with an input. A text that starts like
an option is taken for one, and then there is no text to carry out. -/
def Finish.ofText (environment : Fields Bytes) (input text : Bytes) : Finish :=
  let start := Evaluation.ending depth (Evaluation.shell depth "sh".toList [['-', 'c'], text])
  let (r, m) := start.run (.clean environment input)
  let isEndless : Bool := m.tasks.any fun t => match t.2 with
    | .endless => true
    | _ => false
  let status := match r with
    | .error (.killed ..) => none
    | _ => some m.process.status
  let isOver : Bool := match r with
    | .error .exhausted => false
    | _ => !isEndless
  let time := if !isOver then none else some (max m.process.clock m.held)
  ⟨Chunk.join m.out, Chunk.join m.err, status, time, if input.isEmpty then [] else m.inputLeft⟩

/-- The bytes of a string, one character each. -/
def ofString (s : String) : Bytes :=
  (Text.Utf8.encode s.toList).map fun b => Char.ofNat b.toNat

/-- The bytes that characters stand for. -/
def toBytes (cs : Bytes) : List UInt8 := cs.map fun c => UInt8.ofNat c.toNat

/-- Why a command with a zero byte is not started. -/
def zeroByte : String := "nul byte found in provided data"

/-- Does a text end in time? One that takes no time ends in no time. -/
def Finish.isInTime (f : Finish) (seconds : Nat) : Bool :=
  match f.time with
  | some t => t = 0 || t < seconds * 1000
  | none => false

/-- What comes of a command within a number of seconds, and what it leaves of an input. -/
def run (environment : Fields String) (command : String) (seconds : Nat) (input : List UInt8) :
    ShellRun × List UInt8 :=
  if command.toList.contains '\x00' then (.notStarted zeroByte, input)
  else
    let f := Finish.ofText (environment.map fun v => (v.1, ofString v.2))
      (input.map fun b => Char.ofNat b.toNat) (ofString command)
    if f.isInTime seconds then (.finished ⟨toBytes f.out, toBytes f.err, f.status⟩, toBytes f.input)
    else (.timedOut, toBytes f.input)

/-- The double as a host that never waits, without an input. -/
def host {σ : Type} (environment : Fields String) : ShellHost σ where
  run command seconds w := ((run environment command seconds []).1, w)
  interrupt _ _ := none

/-- How many bytes a read finds at most. -/
def readSize : Nat := 8192

/-- The input that has bytes in it and is open no longer behind them. -/
def feedOf (bs : List UInt8) : Feed :=
  (List.range ((bs.length + readSize - 1) / readSize)).map fun k =>
    (bs.drop (readSize * k)).take readSize

/-- The double as a host whose commands have the input of the program. -/
def sharingHost {σ : Type} (environment : Fields String) : ShellHost (σ × Feed) where
  run command seconds w :=
    let (r, left) := run environment command seconds w.2.flatten
    (r, w.1, feedOf left)
  interrupt _ _ := none

end ActionTree.Sh
