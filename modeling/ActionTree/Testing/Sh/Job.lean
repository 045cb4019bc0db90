import ActionTree.Testing.Sh.Signal

/-!
# Commands in the background

The commands that look at what was put into the background. When they start, all of it has been
carried out as far as that is known.

* `Job.wait`: goes on when commands in the background have ended.
* `Job.list`: shows them.
-/

namespace ActionTree.Sh.Job

/-- How a command in the background ended: its status, when, and by which signal. -/
structure Ending where
  status : Nat
  time : Nat
  signal : Option Nat

/-- How the command in the background of a number ends; without an end the shell waits for ever. -/
def ending (pid : Nat) : Run Ending := do
  match (← get).task? pid with
  | some (.ended status time signal) => return ⟨status, time, signal⟩
  | _ => throw .exhausted

/-- The number of the process that an argument names, if it is one of this shell. -/
def target? (line : Nat) (arg : Bytes) : Run (Option Nat) := do
  let p ← Run.process
  match arg with
  | '%' :: _ =>
    match Signal.job? p arg with
    | some j => return some j.pid
    | none => Run.fail line (Signal.noJob arg)
  | arg => do
    let n ← Builtin.natural line arg
    return (p.jobs.find? (·.pid = n)).map (·.pid)

/-- Waits for commands in the background: for all of them, or for some of which the last one gives
the status. -/
def wait : Builtin := fun line args => do
  match (← Flags.read "" "" line args).rest with
  | [] => do
    for j in (← Run.process).jobs do
      Run.waitUntil (← ending j.pid).time
    Run.setStatus 0
  | targets =>
    for arg in targets do
      match ← target? line arg with
      | none => Run.setStatus 127
      | some pid => do
        let e ← ending pid
        Run.waitUntil e.time
        Run.setStatus e.status
        let isNew := ((← Run.process).jobs.find? (·.pid = pid)).any (!·.shown)
        if let some n := e.signal then
          if isNew then Run.print 2 (Run.signalMessage n)
        Run.update fun p =>
          { p with jobs := p.jobs.map fun j => if j.pid = pid then { j with shown := true } else j }

/-- The state of a command in the background at a time. -/
def state (now : Nat) (task : Option Task) : Bytes :=
  match task with
  | some (.ended status time signal) =>
    if now < time then "Running".toList
    else match signal with
      | some n => Expansion.chomp (Run.signalMessage n)
      | none =>
        if status = 0 then "Done".toList else "Done(".toList ++ decimal status ++ [')']
  | _ => "Running".toList

/-- Shows the commands in the background, the latest first. Those that have ended are forgotten. -/
def list : Builtin := fun line args => do
  let flags ← Flags.read "lp" "" line args
  let m ← get
  let mut wanted := []
  if flags.rest.isEmpty then wanted := m.process.jobs
  else
    for arg in flags.rest do
      match Signal.job? m.process arg with
      | some j => wanted := wanted ++ [j]
      | none => Run.fail line (Signal.noJob arg)
  for j in wanted do
    let mark := match m.process.jobs.findIdx? (·.number = j.number) with
      | some 0 => '+'
      | some 1 => '-'
      | _ => ' '
    let task := m.task? j.pid
    let head := '[' :: decimal j.number ++ [']', ' ', mark, ' ']
    if flags.has 'p' then Run.print 1 (decimal j.pid ++ ['\n'])
    else if flags.has 'l' then
      let told := pad true 27 (state m.process.clock task)
      Run.print 1 (head ++ decimal j.pid ++ ' ' :: told ++ ['\n'])
    else Run.print 1 (pad true 33 (head ++ state m.process.clock task) ++ ['\n'])
    if let some t := task then
      if Signal.isOver m.process.clock t then
        Run.update fun p => { p with jobs := p.jobs.filter (·.pid ≠ j.pid) }
  Run.setStatus 0

/-- Commands cannot be brought back from the background. -/
def resume : Builtin := fun line args => do
  let flags ← Flags.read "" "" line args
  let p ← Run.process
  let spec := flags.rest.headD ['%', '%']
  match Signal.job? p spec with
  | none => Run.fail line (Signal.noJob spec)
  | some _ =>
    let name := flags.rest.headD "(null)".toList
    Run.fail line ("job ".toList ++ name ++ " not created under job control".toList)

/-- The number that the next job of a process has. -/
def nextNumber (p : Process) : Nat := (p.jobs.map (·.number)).foldl max 0 + 1

/-- Puts a command into the background. It reads nothing. -/
def add (c : Command) : Run Unit := do
  let m ← get
  let pid := m.nextPid
  let child : Process := { m.process with
    pid := pid
    traps := m.process.traps.filter (·.2.isEmpty)
    jobs := []
    descriptors := (0, .nothing) :: m.process.descriptors.filter (·.1 ≠ 0) }
  modify fun m => { m with
    nextPid := pid + 1
    tasks := m.tasks ++ [(pid, .waiting child c)] }
  Run.update fun p => { p with
    lastJob := some pid
    jobs := ⟨nextNumber p, pid, false⟩ :: p.jobs
    status := 0 }

end ActionTree.Sh.Job
