import ActionTree.Testing.Sh.Redirection
import ActionTree.Testing.Sh.Plan

/-!
# Starting programs

A program is started in the scene that the machine shows it; what it did is carried over to the
machine when it ends.

* `Launch.carry`: carries out what a program does.
* `Launch.run`: runs a program.
* `Run.limited`: a computation with a limit on its time.
* `Run.collected`: a computation whose output is taken.
-/

namespace ActionTree.Sh

namespace Launch

/-- The file that the output goes to, if it is one, and why nothing can be written to it. -/
def output (m : Machine) : Option Nat × Option Trouble :=
  match m.channel? 1, m.stream? 1 with
  | none, _ | some .nothing, _ => (none, some .badDescriptor)
  | some _, none => (none, none)
  | some _, some s =>
    match s.writable, s.opened with
    | true, .node n _ _ => match m.disk.kind n with
      | .device .full => (none, some .noSpace)
      | .file _ => (some n, none)
      | _ => (none, none)
    | _, _ => (none, some .badDescriptor)

/-- The file that the input comes from, if it is one, and whether the input has no end. -/
def inputNature (m : Machine) : Option Nat × Bool :=
  match m.stream? 0 with
  | none => (none, false)
  | some s => match s.opened with
    | .text _ _ endless => (none, endless)
    | .node n _ _ => match m.disk.kind n with
      | .device .zero | .device .full => (none, true)
      | .file _ => (some n, false)
      | _ => (none, false)

/-- The scene in which a program of a name starts. -/
def scene (m : Machine) (name : Bytes) (environment : List (Bytes × Bytes))
    (input : Except Trouble Bytes) : Scene :=
  let (file, trouble) := output m
  let (source, endless) := inputNature m
  { name := name
    input := input
    inputEndless := endless
    inputFile := source
    outputFile := file
    outputTrouble := trouble
    directory := m.process.directory
    environment := environment
    mask := m.process.mask
    clock := m.process.clock
    disk := m.disk
    written := []
    taken := .nothing
    slept := 0
    endless := false
    failing := 1
    usage := []
    status := 0 }

/-- Writes what a program wrote. -/
def writeAll : List (Bool × Bytes) → Run Unit
  | [] => pure ()
  | (isMessage, text) :: rest => do
    discard (Run.write (if isMessage then 2 else 1) text)
    writeAll rest

/-- Carries out what a program of a name does in an environment, up to where it would wait. The
result is what came of it, unless that ended the program, and how long it waits. A program that
would go on for ever does not end. -/
def carry {α : Type} (x : Act α) (name : Bytes) (environment : List (Bytes × Bytes)) :
    Run (Option α × Nat) := do
  let input ← Run.input 0
  let m ← get
  let (ended, s) := x.run (scene m name environment (input.map (·.text)))
  set { m with disk := s.disk }
  match s.taken, input with
  | .upTo n rest, .ok i => Run.advance 0 i n rest
  | .all, .ok i => Run.advance 0 i i.text.length []
  | _, _ => pure ()
  let lost := s.written.filter fun w => !w.1 && !w.2.isEmpty
  let result ← match s.outputTrouble, lost with
    | some t, _ :: _ => do
      writeAll (s.written.filter (·.1)).reverse
      discard (Run.write 2 (fed (s.name ++ ": write error: ".toList ++ t.message)))
      Run.setStatus s.failing
      pure none
    | _, _ => do
      writeAll s.written.reverse
      match ended with
      | .ok a => do
        Run.setStatus s.status
        pure (some a)
      | .error n => do
        Run.setStatus n
        pure none
  if s.endless then throw .exhausted
  return (result, s.slept)

/-- Runs a program under a name with an environment. The result is how long it waits. -/
def run (program : Executable) (name : Bytes) (environment : List (Bytes × Bytes))
    (args : List Bytes) : Run Nat := do
  return (← carry (program args) name environment).2

end Launch

/-- The process as a program that is started finds it. -/
def Process.given (p : Process) (s : Start) : Process :=
  { p with
    vars := s.environment.reverse.map fun v => (v.1, ⟨some v.2, true, false⟩)
    directory := s.directory }

/-- A computation in a process of its own that is killed if it takes too long, and how it ended. -/
def Run.limited (limit : Option (Nat × Nat)) (x : Run Unit) : Run Ending := do
  match limit with
  | none => match ← Run.apart x with
    | some n => return .signal n
    | none => return .status (← Run.process).status
  | some (time, signal) => do
    let end_ := (← Run.process).clock + time
    let ended ← Run.apart do
      let p ← Run.process
      Run.update fun p => { p with deadlines := ⟨end_, p.pid, signal⟩ :: p.deadlines }
      Run.orElse x (do
        Run.waitUntil end_
        throw (.killed p.pid signal))
    match ended with
    | some n => return if end_ ≤ (← Run.process).clock then .late else .signal n
    | none => return .status (← Run.process).status

/-- How a computation in a process of its own ended, and what it wrote to its output. -/
def Run.collected (x : Run Unit) : Run (Ending × Bytes) := fun m =>
  let k := m.nextCapture
  let body : Run Unit := do
    Run.connect 1 (some (.capture k))
    x
  let (r, n) := (Run.limited none body).run
    { m with captures := (k, []) :: m.captures, nextCapture := k + 1 }
  let text := (((n.captures.find? (·.1 = k)).map (·.2)).map Chunk.join).getD []
  (r.map (·, text), { n with captures := n.captures.filter (·.1 ≠ k) })

end ActionTree.Sh
