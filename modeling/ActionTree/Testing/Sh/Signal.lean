import ActionTree.Testing.Sh.Builtin.Basic

/-!
# Signals

The commands that send signals and that say what is carried out when one comes. A process can send
signals to itself, to the processes around it and to the commands that it put into the background.

* `Signal.kill`: sends signals, or lists their names.
* `Signal.trap`: sets, removes and shows what is carried out.
-/

namespace ActionTree.Sh.Signal

/-- The names of the signals in the order of their numbers, from 0 on. -/
def names : List String :=
  ["EXIT", "HUP", "INT", "QUIT", "ILL", "TRAP", "ABRT", "BUS", "FPE", "KILL", "USR1", "SEGV",
    "USR2", "PIPE", "ALRM", "TERM", "16", "CHLD", "CONT", "STOP", "TSTP", "TTIN", "TTOU", "URG",
    "XCPU", "XFSZ", "VTALRM", "PROF", "WINCH", "IO", "PWR", "SYS", "32", "33", "RTMIN"]
    ++ ((List.range 15).map fun i => "RTMIN+" ++ toString (i + 1))
    ++ ((List.range 14).map fun i => "RTMAX-" ++ toString (14 - i)) ++ ["RTMAX"]

/-- The number of a signal. -/
def ofText? (cs : Bytes) : Option Nat :=
  match Text.natural? names.length cs with
  | some n => some n
  | none => names.idxOf? (String.ofList (cs.map Char.toUpper))

/-- The name of a signal. -/
def nameOf (n : Nat) : Bytes := (names.getD n "").toList

/-- Signals that do nothing to a process that does not expect them. -/
def harmless : List Nat := [0, 17, 18, 23, 28]

/-- Signals that stop a process for good. -/
def stopping : List Nat := [19, 20, 21, 22]

/-- Signals for which nothing can be set. -/
def untrappable : List Nat := [9, 19]

/-- The machine after a command in the background was killed: nothing that it would have written
later is there. -/
def endTask (m : Machine) (pid n : Nat) : Machine :=
  let now := m.process.clock
  let keep (cs : List Chunk) : List Chunk := cs.filter fun c => c.owner ≠ pid || c.time ≤ now
  let tasks := m.tasks.map fun t => if t.1 = pid then (pid, .ended (128 + n) now (some n)) else t
  let ends := tasks.map fun t => match t.2 with
    | .ended _ time _ => time
    | _ => 0
  { m with
    tasks := tasks
    out := keep m.out
    err := keep m.err
    captures := m.captures.map fun c => (c.1, keep c.2)
    held := min m.held (ends.foldl max now) }

/-- Is the command in the background over? -/
def isOver (now : Nat) : Task → Bool
  | .ended _ time _ => time ≤ now
  | _ => false

/-- Sends a signal to a process, and says whether there is one. -/
def send (pid n : Nat) : Run Bool := do
  let m ← get
  let p := m.process
  let traps? := if pid = p.pid then some p.traps else (m.ancestors.find? (·.1 = pid)).map (·.2)
  match traps?, m.tasks.find? (·.1 = pid) with
  | some traps, _ => do
    match traps.find? fun t => t.1 = n && n ≠ 0 && !untrappable.contains n with
    | some (_, []) => return true
    | some _ => do
      set { m with signals := m.signals ++ [(pid, n)] }
      return true
    | none =>
      if stopping.contains n then throw .exhausted
      else if harmless.contains n then return true
      else throw (.killed pid n)
  | none, some (_, task) => do
    if !isOver p.clock task && !harmless.contains n then set (endTask m pid n)
    return true
  | none, none => return false

/-- What is said of a job that there is not. -/
def noJob (spec : Bytes) : Bytes :=
  if ["%", "%%", "%+"].contains (String.ofList spec) then "No current job".toList
  else if spec = ['%', '-'] then "No previous job".toList
  else "No such job: ".toList ++ spec

/-- The job that an argument behind a percent sign names. -/
def job? (p : Process) (spec : Bytes) : Option Job :=
  match spec with
  | ['%'] | ['%', '%'] | ['%', '+'] => p.jobs.head?
  | ['%', '-'] => p.jobs[1]?
  | '%' :: ds => (Text.natural? countBound ds).bind fun n => p.jobs.find? (·.number = n)
  | _ => none

/-- Sends a signal to the processes that arguments name. -/
def sendAll (line n : Nat) : List Bytes → Bool → Run Unit
  | [], failed => Run.setStatus (if failed then 1 else 0)
  | target :: rest, failed => do
    let pid ← match target with
      | '%' :: _ => do
        match job? (← Run.process) target with
        | some _ => pure none
        | none => Run.fail line (noJob target)
      | '-' :: ds => do
        discard (Builtin.natural line ds)
        pure none
      | ds => do pure (some (← Builtin.natural line ds))
    let found ← match pid with
      | some pid => send pid n
      | none => pure false
    if !found then Run.complain line "No such process\n".toList
    sendAll line n rest (failed || !found)

/-- How signals are sent. -/
def usage : Bytes :=
  ("Usage: kill [-s sigspec | -signum | -sigspec] [pid | job]... or\n"
    ++ "kill -l [exitstatus]").toList

/-- Lists the names of signals, or the one that ended a process with a status. -/
def list (line : Nat) : List Bytes → Run Unit
  | [] => do
    Run.print 1 ("0\n".toList ++ names.tail.flatMap fun name => name.toList ++ ['\n'])
    Run.setStatus 0
  | arg :: _ => do
    let n ← Builtin.natural line arg
    let n := if 128 < n then n - 128 else n
    if 0 < n && n < names.length then
      Run.print 1 (nameOf n ++ ['\n'])
      Run.setStatus 0
    else Run.fail line ("invalid signal number or exit status: ".toList ++ arg)

/-- Sends a signal, or lists the names of signals. -/
def kill : Builtin := fun line args => do
  match args with
  | [] => Run.fail line usage
  | first :: rest =>
    let direct := match first with
      | '-' :: spec => ofText? spec
      | _ => none
    match direct with
    | some n => if rest.isEmpty then Run.fail line usage else sendAll line n rest false
    | none =>
      let flags ← Flags.read "l" "s" line args
      let signal ← match flags.value? 's' with
        | some spec =>
          match ofText? spec with
          | some n => pure (some n)
          | none => Run.fail line ("invalid signal number or name: ".toList ++ spec)
        | none => pure none
      match flags.has 'l', signal, flags.rest with
      | true, none, rest => list line rest
      | true, some _, _ | false, _, [] => Run.fail line usage
      | false, signal, rest => sendAll line (signal.getD 15) rest false

/-- The process with what is carried out on a signal, if anything. -/
def set (p : Process) (n : Nat) (action : Option Bytes) : Process :=
  let others := p.traps.filter (·.1 ≠ n)
  { p with traps := match action with
    | some text => (n, text) :: others
    | none => others }

/-- Says what is carried out on signals, or shows it. -/
def trap : Builtin := fun line args => do
  match (← Flags.read "" "" line args).rest with
  | [] => do
    let p ← Run.process
    for n in List.range names.length do
      for t in p.traps.filter (·.1 = n) do
        Run.print 1 ("trap -- ".toList ++ Builtin.readable t.2 ++ ' ' :: nameOf n ++ ['\n'])
    Run.setStatus 0
  | first :: rest =>
    if rest.isEmpty || (Text.natural? names.length first).isSome then setAll none (first :: rest)
    else setAll (if first = ['-'] then none else some first) rest
where
  /-- Sets the action of signals, up to a text that is none. -/
  setAll (action : Option Bytes) : List Bytes → Run Unit
    | [] => Run.setStatus 0
    | spec :: specs => do
      match ofText? spec with
      | some n => do
        Run.update fun p => set p n action
        setAll action specs
      | none => do
        Run.print 2 ("trap: ".toList ++ spec ++ ": bad trap\n".toList)
        Run.setStatus 1

end ActionTree.Sh.Signal
