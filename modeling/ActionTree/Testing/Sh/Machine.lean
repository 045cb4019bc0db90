import ActionTree.Testing.Sh.Format
import ActionTree.Testing.Sh.Disk

/-!
# What a running shell changes

A `Machine` holds what shell commands change: a `Process`, of which a subshell has a copy of its
own, and what processes have in common: what was written, the open files, the disk, and the commands
that run in the background. Every process has a clock, which goes on only when it waits; what was
written is put in order by the time of writing. `Run` is a computation on a machine that may halt.

* `Run.write`: writes to a descriptor.
* `Run.input`: what can be read from a descriptor.
* `Run.subshell`: a computation in a process of its own.
* `Run.assign`: a variable takes a value, unless it is read-only.
-/

namespace ActionTree.Sh

/-- Where a descriptor leads. -/
inductive Channel where
  | out
  | err
  /-- An input in which there is nothing. -/
  | nothing
  /-- The input of another command or a part of a word. -/
  | capture (n : Nat)
  /-- An open file. -/
  | stream (n : Nat)
  deriving DecidableEq

/-- What an open file is. -/
inductive Opened where
  /-- What is left of a text that is complete from a time on, and whether its writer would have
  written more for ever. -/
  | text (rest : Bytes) (ready : Nat) (endless : Bool)
  /-- A node of the disk with the place to go on at, and what is left to be read there if the file
  still has a size. -/
  | node (n offset : Nat) (ahead : Option (Nat × Bytes))

/-- An open file. -/
structure Stream where
  opened : Opened
  readable : Bool
  writable : Bool
  /-- Is everything written at the end? -/
  append : Bool

instance : Inhabited Stream := ⟨⟨.text [] 0 false, false, false, false⟩⟩

/-- A piece of output: when it was written, and by which process. -/
structure Chunk where
  time : Nat
  owner : Nat
  text : Bytes

/-- A variable: its value, whether programs are given it, and whether it cannot be changed. -/
structure Var where
  value : Option Bytes
  exported : Bool
  fixed : Bool

/-- A command in the background, as its parent knows it. -/
structure Job where
  number : Nat
  pid : Nat
  /-- Has the end of the job been shown? -/
  shown : Bool

/-- What `getopts` goes on with: the next argument, and the place in the one before it. -/
structure Scan where
  index : Nat
  offset : Option Nat

/-- A variable that a function has made local, with what it was, or the options at that time. -/
inductive Local where
  | var (name : Bytes) (before : Option Var)
  | options (before : List Char)

/-- The time at which a signal kills a process. -/
structure Deadline where
  time : Nat
  pid : Nat
  signal : Nat

/-- What a subshell has a copy of. -/
structure Process where
  vars : List (Bytes × Var)
  functions : List (Bytes × Command)
  aliases : List (Bytes × Bytes)
  /-- The programs that were found, with their paths. -/
  hashed : List (Bytes × Bytes)
  /-- The path of the working directory, as it was reached. -/
  directory : Bytes
  /-- What the shell is called. -/
  name : Bytes
  /-- The command of the shell whose name its messages start with, if it is inside of one. -/
  speaker : Option Bytes
  /-- The positional parameters. -/
  params : List Bytes
  scan : Scan
  /-- The status of the last command. -/
  status : Nat
  /-- The status of the last command whose output was put into a word of this command. -/
  captured : Nat
  /-- Where the descriptors lead. -/
  descriptors : List (Nat × Channel)
  /-- The number of loops around the command. -/
  loops : Nat
  /-- The number of functions around the command. -/
  calls : Nat
  /-- The letters of the options that are set. -/
  options : List Char
  /-- Is the status of the command looked at, so that a failure is no reason to end the process? -/
  tested : Bool
  /-- Inside of a function, what is local to it. -/
  locals : Option (List Local)
  /-- What is carried out on a signal, or at the end for 0. -/
  traps : List (Nat × Bytes)
  /-- The number of the process, and that of its shell. -/
  pid : Nat
  shellPid : Nat
  /-- The last command that was put into the background. -/
  lastJob : Option Nat
  jobs : List Job
  /-- The permissions that new files do not get. -/
  mask : Nat
  /-- The limits that were set, by their letters. -/
  limits : List (Char × Bytes)
  /-- The time that the process has reached, in milliseconds. -/
  clock : Nat
  /-- The ends that were set for it or for processes around it. -/
  deadlines : List Deadline

/-- A command in the background. -/
inductive Task where
  /-- It has not been carried out yet. -/
  | waiting (p : Process) (c : Command)
  /-- It ended with a status at a time, perhaps by a signal. -/
  | ended (status time : Nat) (signal : Option Nat)
  /-- It would not end. -/
  | endless

/-- What shell commands change. -/
structure Machine where
  process : Process
  /-- What was written, the latest first. -/
  out : List Chunk
  err : List Chunk
  captures : List (Nat × List Chunk)
  nextCapture : Nat
  streams : Array Stream
  disk : Disk
  tasks : List (Nat × Task)
  nextPid : Nat
  /-- The processes around this one, each with what it carries out on signals. -/
  ancestors : List (Nat × List (Nat × Bytes))
  /-- The signals that have come and have not been answered yet, each with its process. -/
  signals : List (Nat × Nat)
  /-- The time up to which some process could have written output. -/
  held : Nat
  /-- Did a command of the shell fail to write its output? -/
  broken : Bool
  /-- How many more commands may be carried out. -/
  steps : Nat

namespace Machine

/-- The command in the background of a number. -/
def task? (m : Machine) (pid : Nat) : Option Task := (m.tasks.find? (·.1 = pid)).map (·.2)

/-- Where a descriptor of the process leads. -/
def channel? (m : Machine) (descriptor : Nat) : Option Channel :=
  (m.process.descriptors.find? (·.1 = descriptor)).map (·.2)

/-- The open file that a descriptor of the process leads to. -/
def stream? (m : Machine) (descriptor : Nat) : Option Stream :=
  match m.channel? descriptor with
  | some (.stream n) => m.streams[n]?
  | _ => none

end Machine

/-- Why a computation does not go on. -/
inductive Halt where
  /-- The process ends. -/
  | exit
  /-- An error ends the process, unless it comes from a command that is not special. -/
  | error
  /-- A function or a file of commands ends. -/
  | returned
  /-- So many loops are left. -/
  | leave (loops : Nat)
  /-- So many loops are left, the last of them only for this round. -/
  | again (loops : Nat)
  /-- A signal kills a process. -/
  | killed (pid signal : Nat)
  /-- The steps that were allowed are used up. -/
  | exhausted
  deriving DecidableEq

/-- A computation on a machine that may halt. -/
abbrev Run (α : Type) := ExceptT Halt (StateM Machine) α

/-- Pieces of output, given the latest first, as one text in the order of time. -/
def Chunk.join (chunks : List Chunk) : Bytes :=
  let ordered := chunks.reverse
  let inTime := (ordered.zip ordered.tail).all fun (a, b) => a.time ≤ b.time
  let sorted := if inTime then ordered else ordered.mergeSort fun a b => a.time ≤ b.time
  sorted.flatMap (·.text)

namespace Process

/-- The value of a variable. -/
def value? (p : Process) (name : Bytes) : Option Bytes :=
  (p.vars.find? (·.1 = name)).bind (·.2.value)

/-- Is an option set? -/
def has (p : Process) (option : Char) : Bool := p.options.contains option

/-- A variable of the process. -/
def var? (p : Process) (name : Bytes) : Option Var := (p.vars.find? (·.1 = name)).map (·.2)

/-- The process with a variable as it is given, or without it. -/
def withVar (p : Process) (name : Bytes) (v : Option Var) : Process :=
  let vars := match v with
    | none => p.vars.filter (·.1 ≠ name)
    | some v =>
      if p.vars.any (·.1 = name) then p.vars.map fun x => if x.1 = name then (name, v) else x
      else (name, v) :: p.vars
  let p := { p with vars := vars }
  if name = "OPTIND".toList then
    let index := ((v.bind (·.value)).bind (Text.natural? countBound)).getD 1
    { p with scan := ⟨max index 1, none⟩ }
  else if name = "PATH".toList then { p with hashed := [] }
  else p

/-- The process with another value of a variable. -/
def withValue (p : Process) (name value : Bytes) : Process :=
  let v := (p.var? name).getD ⟨none, false, false⟩
  p.withVar name (some { v with value := some value, exported := v.exported || p.has 'a' })

/-- The row of a name among the rows in which variables are kept. -/
def row (name : Bytes) : Nat :=
  ((name.headD '\x00').toNat * 16 + name.foldl (fun n c => n + c.toNat) 0) % 39

/-- The variables that programs are given, row by row and in each row from the oldest one on. -/
def environment (p : Process) : List (Bytes × Bytes) :=
  let exported := p.vars.reverse.filterMap fun (x, v) =>
    if v.exported then v.value.map (x, ·) else none
  exported.mergeSort fun a b => row a.1 ≤ row b.1

/-- The directories in which programs are. -/
def path (p : Process) : Bytes := (p.value? "PATH".toList).getD []

/-- The first of the ends that come up to a time. -/
def deadline? (p : Process) (time : Nat) : Option Deadline :=
  p.deadlines.foldl (fun first d =>
    if d.time ≤ time && first.all (d.time < ·.time) then some d else first) none

end Process

namespace Run

/-- The process. -/
def process : Run Process := do return (← get).process

/-- Changes the process. -/
def update (f : Process → Process) : Run Unit :=
  modify fun m => { m with process := f m.process }

/-- Sets the status. -/
def setStatus (n : Nat) : Run Unit := update fun p => { p with status := n }

/-- Uses up one step. -/
def step : Run Unit := do
  let m ← get
  if m.steps = 0 then throw .exhausted
  set { m with steps := m.steps - 1 }

/-- Waits up to a time, or up to the end that was set for a process. Who could write to the output
holds it open. -/
def waitUntil (time : Nat) : Run Unit := do
  let m ← get
  let p := m.process
  let due := if p.clock < time then p.deadline? time else none
  let time := max ((due.map (·.time)).getD time) p.clock
  let holds := p.descriptors.any fun d => d.2 = .out || d.2 = .err
  set { m with
    process := { p with clock := time }
    held := if holds then max m.held time else m.held }
  if let some d := due then throw (.killed d.pid d.signal)

/-! ## Descriptors -/

/-- Where a descriptor leads. -/
def channel? (descriptor : Nat) : Run (Option Channel) := return (← get).channel? descriptor

/-- A new open file. -/
def openStream (s : Stream) : Run Channel := do
  let m ← get
  set { m with streams := m.streams.push s }
  return .stream m.streams.size

/-- Changes an open file. -/
def setOpened (n : Nat) (o : Opened) : Run Unit :=
  modify fun m =>
    { m with streams := m.streams.setIfInBounds n { m.streams.getD n default with opened := o } }

/-- Leads a descriptor to a channel, or closes it. -/
def connect (descriptor : Nat) (c : Option Channel) : Run Unit :=
  update fun p =>
    let others := p.descriptors.filter (·.1 ≠ descriptor)
    { p with descriptors := match c with
      | some c => (descriptor, c) :: others
      | none => others }

/-- Writes a text to a node of the disk at an offset, or at the end. The result is the place behind
it. -/
def writeNode (n offset : Nat) (append : Bool) (text : Bytes) : Run (Except Trouble Nat) := do
  let m ← get
  match m.disk.kind n with
  | .file c =>
    let offset := if append then c.size else offset
    let node : Node := ⟨.file (c.overwrite offset text), (m.disk.node n).mode, m.process.clock⟩
    if !text.isEmpty then set { m with disk := m.disk.setNode n node }
    return .ok (offset + text.length)
  | .device .full => return if text.isEmpty then .ok 0 else .error .noSpace
  | _ => return .ok 0

/-- Writes to a descriptor. The result is what is wrong, if anything. -/
def write (descriptor : Nat) (text : Bytes) : Run (Option Trouble) := do
  match ← channel? descriptor with
  | none | some .nothing => return some .badDescriptor
  | some (.stream k) =>
    let s := (← get).streams.getD k default
    match s.opened with
    | .node n offset _ =>
      if !s.writable then return some .badDescriptor
      match ← writeNode n offset s.append text with
      | .ok place => do
        setOpened k (.node n place none)
        return none
      | .error t => return some t
    | .text .. => return some .badDescriptor
  | some c => do
    if !text.isEmpty then
      modify fun m =>
        let chunk : Chunk := ⟨m.process.clock, m.process.pid, text⟩
        match c with
        | .err => { m with err := chunk :: m.err, held := max m.held m.process.clock }
        | .capture k =>
          { m with captures := m.captures.map fun x =>
              if x.1 = k then (k, chunk :: x.2) else x }
        | _ => { m with out := chunk :: m.out, held := max m.held m.process.clock }
    return none

/-- Writes to a descriptor, whether that can be done or not. -/
def print (descriptor : Nat) (text : Bytes) : Run Unit := do
  let trouble ← write descriptor text
  if descriptor = 1 && trouble.isSome && !text.isEmpty then
    modify fun m => { m with broken := true }

/-- Writes a message of the shell. -/
def complain (line : Nat) (text : Bytes) : Run Unit := do
  let p ← process
  let colon := ": ".toList
  let speaker := match p.speaker with
    | some who => who ++ colon
    | none => []
  print 2 (p.name ++ colon ++ decimal line ++ colon ++ speaker ++ text ++ ['\n'])

/-- Writes a message and ends the process. -/
def fail {α : Type} (line : Nat) (text : Bytes) : Run α := do
  complain line text
  setStatus 2
  throw .error

/-- What can be read from a descriptor. -/
structure Input where
  text : Bytes
  /-- When it is complete. -/
  ready : Nat
  /-- Would more of it have come for ever? -/
  endless : Bool

/-- What can be read from a descriptor. -/
def input (descriptor : Nat) : Run (Except Trouble Input) := do
  match ← channel? descriptor with
  | some (.stream k) =>
    let m ← get
    let s := m.streams.getD k default
    if !s.readable then return .error .badDescriptor
    else match s.opened with
      | .text rest ready endless => return .ok ⟨rest, ready, endless⟩
      | .node n offset ahead =>
        let size : Nat := match m.disk.kind n with
          | .file c => c.size
          | _ => 0
        match ahead.filter (·.1 = size) with
        | some (_, rest) => return .ok ⟨rest, 0, false⟩
        | none => return (m.disk.textOf n).map fun text => ⟨text.drop offset, 0, false⟩
  | some .nothing => return .ok ⟨[], 0, false⟩
  | _ => return .error .badDescriptor

/-- Says what is left to be read from a descriptor of which so many bytes were read. -/
def advance (descriptor : Nat) (before : Input) (taken : Nat) (rest : Bytes) : Run Unit := do
  waitUntil before.ready
  match ← channel? descriptor with
  | some (.stream k) =>
    let m ← get
    match (m.streams.getD k default).opened with
    | .text _ ready endless => setOpened k (.text rest ready endless)
    | .node n offset _ =>
      match m.disk.kind n with
      | .file c => setOpened k (.node n (offset + taken) (some (c.size, rest)))
      | _ => pure ()
  | _ => pure ()

/-! ## Processes -/

/-- A computation after which a part of the process is put back to what it was, however it ends. -/
def restoring (putBack : Process → Process → Process) (x : Run Unit) : Run Unit := fun m =>
  let (r, n) := x.run m
  (r, { n with process := putBack m.process n.process })

/-- What is said of a process that a signal killed. -/
def signalMessage (signal : Nat) : Bytes :=
  let what := match signal with
    | 1 => "Hangup"
    | 3 => "Quit"
    | 4 => "Illegal instruction"
    | 5 => "Trace/breakpoint trap"
    | 6 => "Aborted"
    | 7 => "Bus error"
    | 8 => "Floating point exception"
    | 9 => "Killed"
    | 10 => "User defined signal 1"
    | 11 => "Segmentation fault"
    | 12 => "User defined signal 2"
    | 14 => "Alarm clock"
    | 15 => "Terminated"
    | 16 => "Stack fault"
    | 24 => "CPU time limit exceeded"
    | 25 => "File size limit exceeded"
    | 26 => "Virtual timer expired"
    | 27 => "Profiling timer expired"
    | 29 => "I/O possible"
    | 30 => "Power failure"
    | 31 => "Bad system call"
    | _ => ""
  if what.isEmpty then [] else what.toList ++ ['\n']

/-- A computation in a process of its own, of which only the status, the time and the signal that
killed it are kept. The process starts without the traps of its parent, except that signals which
the parent ignores are ignored, and without its jobs. -/
def apart (x : Run Unit) : Run (Option Nat) := fun m =>
  let p := m.process
  let pid := m.nextPid
  let child := { p with
    pid := pid
    traps := p.traps.filter (·.2.isEmpty)
    jobs := [] }
  let (r, n) := x.run { m with
    process := child
    nextPid := pid + 1
    ancestors := (p.pid, p.traps) :: m.ancestors }
  let back (status : Nat) : Machine :=
    { n with
      process := { p with status := status, clock := max p.clock n.process.clock }
      ancestors := m.ancestors }
  match r with
  | .error (.killed who signal) =>
    if who = pid then (.ok (some signal), back (128 + signal))
    else (.error (.killed who signal), back n.process.status)
  | .error .exhausted => (.error .exhausted, back n.process.status)
  | _ => (.ok none, back n.process.status)

/-- A computation in a process of its own. Of a signal that killed it the shell says so if it is
asked to. -/
def subshell (tellsSignal : Bool) (x : Run Unit) : Run Unit := do
  match ← apart x with
  | some signal => if tellsSignal then print 2 (signalMessage signal)
  | none => pure ()

/-- What a computation in a subshell writes to its output, and whether it would have gone on for
ever. A computation that uses up its steps would have. -/
def capture (mayBeEndless : Bool) (x : Run Unit) : Run (Bytes × Bool) := fun m =>
  let k := m.nextCapture
  let body : Run Unit := do
    connect 1 (some (.capture k))
    x
  let budget := if mayBeEndless then m.steps / 2 else 0
  let (r, n) := (subshell true body).run { m with
    captures := (k, []) :: m.captures
    nextCapture := k + 1
    steps := m.steps - budget }
  let text := (((n.captures.find? (·.1 = k)).map (·.2)).map Chunk.join).getD []
  let n := { n with captures := n.captures.filter (·.1 ≠ k), steps := n.steps + budget }
  match r with
  | .error .exhausted => if mayBeEndless then (.ok (text, true), n) else (.error .exhausted, n)
  | .error h => (.error h, n)
  | .ok () => (.ok (text, false), n)

/-- A computation that may use half of the steps that are left, and another one that goes on if it
would use more. -/
def orElse (x y : Run Unit) : Run Unit := fun m =>
  let budget := m.steps / 2
  let (r, n) := x.run { m with steps := m.steps - budget }
  let n := { n with steps := n.steps + budget }
  match r with
  | .error .exhausted => y.run n
  | r => (r, n)

/-- A computation whose failure, if something looks at it, does not end the process. -/
def testing (tested : Bool) (x : Run Unit) : Run Unit :=
  restoring (fun before after => { after with tested := before.tested }) do
    update fun p => { p with tested := tested }
    x

/-- A computation whose messages start with the name of a command. -/
def naming (who : Option Bytes) (x : Run Unit) : Run Unit :=
  restoring (fun before after => { after with speaker := before.speaker }) do
    update fun p => { p with speaker := who }
    x

/-- A computation that some reasons to halt end without harm. -/
def upTo (isHarmless : Halt → Bool) (x : Run Unit) : Run Unit := fun m =>
  let (r, n) := x.run m
  match r with
  | .error h => if isHarmless h then (.ok (), n) else (.error h, n)
  | r => (r, n)

/-- A computation whose end is not the end of the process: does it ask for that end? -/
def endsProcess (x : Run Unit) : Run Bool := fun m =>
  let (r, n) := x.run m
  match r with
  | .error (.killed pid s) => (.error (.killed pid s), n)
  | .error .exhausted => (.error .exhausted, n)
  | .error .exit | .error .error => (.ok true, n)
  | _ => (.ok false, n)

/-- Ends the process if a failure does so. -/
def checkStatus : Run Unit := do
  let p ← process
  if p.status ≠ 0 && !p.tested && p.has 'e' then throw .exit

/-! ## Variables -/

/-- The value of a variable. -/
def valueOf? (name : Bytes) : Run (Option Bytes) := do return (← process).value? name

/-- Ends the process if a variable is read-only. -/
def checkChangeable (line : Nat) (name : Bytes) : Run Unit := do
  if ((← process).var? name).any (·.fixed) then fail line (name ++ ": is read only".toList)

/-- Sets a variable. -/
def assign (line : Nat) (name value : Bytes) : Run Unit := do
  checkChangeable line name
  update (·.withValue name value)

/-- Removes a variable. -/
def unassign (name : Bytes) : Run Unit := update (·.withVar name none)

/-- Changes the marks of a variable, which need not have a value. -/
def mark (name : Bytes) (f : Var → Var) : Run Unit :=
  update fun p => p.withVar name (some (f ((p.var? name).getD ⟨none, false, false⟩)))

end Run

end ActionTree.Sh
