import ActionTree.Testing.Sh.Executable.Catalog
import ActionTree.Testing.Sh.Invocation
import ActionTree.Testing.Sh.Launch
import ActionTree.Testing.Sh.Meaning
import ActionTree.Testing.Sh.Parser

/-!
# Evaluation of shell commands

Commands are carried out on a machine with a bound on the depth of evaluation. Loops and the lines
of a text do not add to the depth; each simple command and each round of a loop uses up a step.

* `command`: carries out a command.
* `script`: carries out a text, line by line.
* `shell`: carries out what a shell is asked for.
-/

namespace ActionTree.Sh

namespace Evaluation

/-! ## Repetition -/

/-- Repeats a computation that leads from one state to the next one, at most so many times. -/
def iterate {σ : Type} (next : σ → Run (Option σ)) :
    Nat → σ → Machine → Except Halt Unit × Machine
  | 0, _, m => (.error .exhausted, m)
  | n + 1, s, m =>
    match (next s).run m with
    | (.ok (some s), m) => iterate next n s m
    | (.ok none, m) => (.ok (), m)
    | (.error h, m) => (.error h, m)

/-- Repeats a computation that leads from one state to the next one, or to none at the end. -/
def repeating {σ : Type} (s : σ) (next : σ → Run (Option σ)) : Run Unit := fun m =>
  iterate next (m.steps + 1) s m

/-- How a computation inside of a loop ends: on its own, by going on with the next round, or by
leaving the loop. -/
inductive Round where
  | finished
  | skipped
  | left
  deriving DecidableEq

/-- A computation inside of a loop. -/
def round (x : Run Unit) : Run Round := fun m =>
  let inner := { m with process := { m.process with loops := m.process.loops + 1 } }
  let (r, n) := x.run inner
  let n := { n with process := { n.process with loops := m.process.loops } }
  match r with
  | .ok () => (.ok .finished, n)
  | .error (.leave (k + 2)) => (.error (.leave (k + 1)), n)
  | .error (.leave _) => (.ok .left, n)
  | .error (.again (k + 2)) => (.error (.again (k + 1)), n)
  | .error (.again _) => (.ok .skipped, n)
  | .error h => (.error h, n)

/-- The end of a process that nests too deeply. -/
def tooDeep {α : Type} : Run α := do throw (.killed (← Run.process).pid 11)

/-! ## Parts of simple commands -/

/-- Carries out assignments. The result is how they are shown. -/
def assignAll (run : Command → Run Unit) (line : Nat) : List (Bytes × Word) → Run (List Bytes)
  | [] => return []
  | (name, w) :: rest => do
    let value ← Expansion.assigned run line w
    Run.assign line name value
    return (name ++ '=' :: value) :: (← assignAll run line rest)

/-- Shows a command where messages went before its redirections, if the options say so. -/
def trace (before : List (Nat × Channel)) (words : List Bytes) : Run Unit := do
  let p ← Run.process
  if p.has 'x' then
    Run.restoring (fun p q => { q with descriptors := p.descriptors }) do
      Run.update fun p => { p with descriptors := before }
      let mark := (p.value? "PS4".toList).getD []
      Run.print 2 (mark ++ spaced words ++ ['\n'])

/-- A computation with variables of its own, which programs are given and which are afterwards what
they were before. -/
def withOwn (names : List Bytes) (x : Run Unit) : Run Unit :=
  if names.isEmpty then x
  else
    Run.restoring (fun p q => names.foldl (fun q name => q.withVar name (p.var? name)) q) x

/-- Marks variables as such that programs are given. -/
def passOn : List Bytes → Run Unit
  | [] => pure ()
  | name :: names => do
    Run.mark name fun v => { v with exported := true }
    passOn names

/-- The words of a command without the prefix `command`, and whether there was one. -/
def withoutPrefix (p : Process) : List Bytes → Bool × List Bytes
  | [] => (false, [])
  | name :: args =>
    if name ≠ "command".toList || p.functions.any (·.1 = name) then (false, name :: args)
    else
      let plain (rest : List Bytes) : Bool × List Bytes := (true, (strip rest).getD (name :: args))
      match args with
      | ['-', '-'] :: rest => plain rest
      | ['-', 'p'] :: ['-', '-'] :: rest => plain rest
      | ['-', 'p'] :: rest => plain rest
      | ('-' :: _ :: _) :: _ => (true, name :: args)
      | rest => plain rest
where
  /-- The words behind a prefix, which may have more of them in front. -/
  strip : List Bytes → Option (List Bytes)
    | [] => none
    | name :: args =>
      if name = "command".toList && !(args.head?.any fun a => a.head? = some '-') then
        (strip args).or (some (name :: args))
      else some (name :: args)

/-! ## Calls -/

/-- The number of functions that may be around one another. -/
def mostCalls : Nat := 1000

/-- A variable, or the options, as they were before they became local. -/
def putBack (q : Process) : Local → Process
  | .var name before => q.withVar name before
  | .options before => { q with options := before }

/-- The inside of a function: parameters and local variables of its own, and no loops around it. -/
def inside (line : Nat) (args : List Bytes) (x : Run Unit) : Run Unit := do
  if mostCalls ≤ (← Run.process).calls then
    Run.fail line ("Maximum function recursion depth (".toList ++ decimal mostCalls
      ++ ") reached".toList)
  Run.restoring (fun p q =>
    { (q.locals.getD []).foldl putBack q with
      params := p.params
      scan := p.scan
      locals := p.locals
      loops := p.loops
      calls := p.calls }) do
    Run.update fun p =>
      { Builtin.withParams p args with locals := some [], loops := 0, calls := p.calls + 1 }
    Run.upTo (· = .returned) x

/-- A command of the shell, after which a failure to write its output is a failure. -/
def checked (line : Nat) (name : Bytes) (x : Run Unit) : Run Unit := do
  modify fun m => { m with broken := false }
  Run.naming (some name) x
  if (← get).broken then
    modify fun m => { m with broken := false }
    Run.naming (some name) (Run.complain line (name ++ ": I/O error".toList))
    Run.update fun p => { p with status := p.status ||| 1 }

/-- The interpreter of a script and what it is given in front of the path, if the first line names
it. -/
def interpreter? (text : Bytes) : Option (Bytes × List Bytes) :=
  match text with
  | '#' :: '!' :: rest =>
    let isBlank (c : Char) : Bool := c = ' ' || c = '\t'
    let words := ((rest.takeWhile (· ≠ '\n')).dropWhile isBlank).reverse.dropWhile isBlank
    let path := words.reverse.takeWhile (!isBlank ·)
    let more := (words.reverse.drop path.length).dropWhile isBlank
    some (path, if more.isEmpty then [] else [more])
  | _ => none

/-- The path at which a program is started, or why it cannot be. -/
def startPath (d : Disk) (s : Start) : Except Trouble Bytes := do
  let directories := ((s.environment.find? (·.1 = "PATH".toList)).map (·.2)).getD Search.leastPath
  let path ← Search.toStart d s.directory directories (s.words.headD [])
  match (d.find s.directory path).map d.kind with
  | .ok (.file c) =>
    match interpreter? c.text with
    | some (tool, _) => if Glob.isThere d s.directory tool then return path else throw .absent
    | none => return path
  | _ => return path

/-- What the signal that came first for a process is, and the ones that are left. -/
def nextSignal? (m : Machine) : Option (Nat × List (Nat × Nat)) :=
  match m.signals.find? (·.1 = m.process.pid) with
  | some s => some (s.2, m.signals.erase s)
  | none => none

/-- Makes a process of a command in the background the one that runs. -/
def enter (m : Machine) (p : Process) : Machine :=
  { m with
    process := p
    ancestors := (m.process.pid, m.process.traps) :: m.ancestors
    tasks := m.tasks.map fun t => if t.1 = p.pid then (p.pid, .endless) else t
    steps := m.steps / 2 }

/-- The machine behind a command in the background, of which it is said how it ended. -/
def back (before after : Machine) (pid : Nat) (t : Task) : Machine :=
  { after with
    process := before.process
    ancestors := before.ancestors
    tasks := after.tasks.map fun x => if x.1 = pid then (pid, t) else x
    steps := before.steps - (before.steps / 2 - after.steps) }

/-- Carries out a command in the background. -/
def aside (pid : Nat) (p : Process) (x : Run Unit) : Run Unit := fun m =>
  let (r, n) := x.run (enter m p)
  match r with
  | .error (.killed who signal) =>
    if who = pid then
      (.ok (), back m n pid (.ended (128 + signal) n.process.clock (some signal)))
    else
      let out := back m n pid (.ended 0 n.process.clock none)
      (.error (.killed who signal),
        { out with process := { out.process with clock := n.process.clock } })
  | .error .exhausted => (.ok (), back m n pid .endless)
  | _ => (.ok (), back m n pid (.ended n.process.status n.process.clock none))

mutual

/-- Carries out a command. -/
def command : Nat → Command → Run Unit
  | 0, _ => tooDeep
  | n + 1, c =>
    match c with
    | .nothing => pure ()
    | .simple line vars words rs => do
      simple n line vars words rs
      answer n
      Run.checkStatus
    | .pipe c d => do
      let start := (← Run.process).clock
      let (text, endless) ← Run.capture true (ending n (Run.testing false (command n c)))
      let ready := (← Run.process).clock
      Run.update fun p => { p with clock := start }
      let source ← Run.openStream ⟨.text text ready endless, true, false, false⟩
      Run.subshell true do
        Run.connect 0 (some source)
        ending n (command n d)
      Run.waitUntil ready
      answer n
      Run.checkStatus
    | .negated c => do
      Run.testing true (command n c)
      Run.update fun p => { p with status := if p.status = 0 then 1 else 0 }
    | .andThen c d => do
      Run.testing true (command n c)
      if (← Run.process).status = 0 then command n d
    | .orElse c d => do
      Run.testing true (command n c)
      if (← Run.process).status ≠ 0 then command n d
    | .seq c d => do
      command n c
      command n d
    | .background c => Job.add c
    | .subshell line c rs => do
      Redirection.under (inner n) line rs (Run.subshell true (ending n (command n c)))
      answer n
      Run.checkStatus
    | .group line c rs => Redirection.under (inner n) line rs (command n c)
    | .cond test body other => do
      Run.testing true (command n test)
      if (← Run.process).status = 0 then branch n body else branch n other
    | .loop untilSuccess test body => repeating 0 fun last => do
      Run.step
      match ← round (Run.testing true (command n test)) with
      | .left => do
        Run.setStatus last
        return none
      | .skipped => return some last
      | .finished =>
        if ((← Run.process).status == 0) == untilSuccess then do
          Run.setStatus last
          return none
        else
          let how ← round (command n body)
          let status := (← Run.process).status
          return if how = .left then none else some status
    | .each line name words body => do
      let values ← match words with
        | some ws => Expansion.fields (inner n) line ws
        | none => pure (← Run.process).params
      Run.setStatus 0
      repeating values fun values => do
        match values with
        | [] => return none
        | v :: rest => do
          Run.step
          Run.assign line name v
          let how ← round (command n body)
          return if how = .left then none else some rest
    | .choose line w branches => do
      let value ← Expansion.text (inner n) line w
      choose n line value branches
    | .define name body => do
      Run.update fun p =>
        { p with functions := (name, body) :: p.functions.filter (·.1 ≠ name) }
      Run.setStatus 0

/-- Carries out a command that is all that its process does. -/
def inner : Nat → Command → Run Unit
  | 0, _ => tooDeep
  | n + 1, c => ending n (command n c)

/-- A branch of a condition; a missing one succeeds. -/
def branch : Nat → Command → Run Unit
  | 0, _ => tooDeep
  | n + 1, c =>
    match c with
    | .nothing => Run.setStatus 0
    | c => command n c

/-- The first branch with a pattern that a value fits. -/
def choose : Nat → Nat → Bytes → List (List Word × Command) → Run Unit
  | 0, _, _, _ => tooDeep
  | n + 1, line, value, branches =>
    match branches with
    | [] => Run.setStatus 0
    | ([], _) :: rest => choose n line value rest
    | (w :: ws, c) :: rest => do
      let p ← Expansion.pattern (inner n) line w
      if p.accepts value then branch n c else choose n line value ((ws, c) :: rest)

/-- Carries out a simple command: its words are expanded, then come its redirections, then its
assignments, which are its own unless the command is special. -/
def simple : Nat → Nat → List (Bytes × Word) → List Word → List Redirect → Run Unit
  | 0, _, _, _, _ => tooDeep
  | n + 1, line, vars, words, rs => do
    Run.step
    Run.update fun p => { p with captured := 0 }
    let fields ← Expansion.fields (inner n) line words
    let p ← Run.process
    let before := p.descriptors
    let names := vars.map (·.1)
    match withoutPrefix p fields with
    | (_, []) =>
      Redirection.under (inner n) line rs do
        let shown ← assignAll (inner n) line vars
        trace before shown
        Run.update fun p => { p with status := p.captured }
    | (skipsFunctions, name :: args) => do
      let special := !skipsFunctions && isReserved name
      let keeps := name = "exec".toList
      let body : Run Unit := do
        let shown ← assignAll (inner n) line vars
        if !special || (keeps && !args.isEmpty) then passOn names
        trace before (shown ++ fields)
        if special then invoke n line skipsFunctions name args
        else if Builtin.isName name && !p.functions.any (·.1 = name) then
          Run.upTo (· = .error) (invoke n line skipsFunctions name args)
        else invoke n line skipsFunctions name args
      let whole : Run Unit := do
        if ← Redirection.all (inner n) line rs then
          if special then body else withOwn names body
        else if special then throw .error
      if keeps then whole else Redirection.restoring rs whole

/-- Carries out the command of a name: a function, a command of the shell, or a program. -/
def invoke : Nat → Nat → Bool → Bytes → List Bytes → Run Unit
  | 0, _, _, _, _ => tooDeep
  | n + 1, line, skipsFunctions, name, args => do
    let p ← Run.process
    let body? := if skipsFunctions then none else (p.functions.find? (·.1 = name)).map (·.2)
    match body?, String.ofList name with
    | some body, _ => inside line args (command n body)
    | none, "eval" => checked line name do
      let text := spaced (← Flags.read "" "" line args).rest
      if text.all Expansion.usualSeparators.contains then Run.setStatus 0
      else script n false text
    | none, "exec" => Run.naming (some name) do
      match (← Flags.read "" "" line args).rest with
      | [] => Run.setStatus 0
      | target :: args => do
        let traps := (← Run.process).traps
        Run.update fun p => { p with traps := p.traps.filter (·.2.isEmpty) }
        if !(← program n line target args) then Run.update fun p => { p with traps := traps }
        throw .exit
    | none, "." => Run.naming (some name) do
      match (← Flags.read "" "" line args).rest with
      | [] => Run.setStatus 0
      | path :: _ => source n line path
    | none, "command" => Run.naming (some name) do
      let flags ← Flags.read "pvV" "" line args
      if flags.has 'V' then Meaning.explain line (['-', '-'] :: flags.rest.take 1)
      else if flags.has 'v' then Meaning.locate line flags.rest
      else Run.setStatus 0
    | none, "type" => checked line name (Meaning.explain line args)
    | none, "hash" => checked line name (Meaning.remember line args)
    | none, "wait" => do
      settle n
      checked line name (Job.wait line args)
    | none, _ =>
      match Builtin.find? name with
      | some b => checked line name (b line args)
      | none => discard (program n line name args)

/-- Carries out the text of a file in this process. A name without a slash is looked for like that
of a program. -/
def source : Nat → Nat → Bytes → Run Unit
  | 0, _, _ => tooDeep
  | n + 1, line, path => do
    let m ← get
    let found : Option Bytes :=
      if path.contains '/' then some path
      else (Search.candidates m.process.path path).find? fun candidate =>
        match m.disk.kindAt? m.process.directory candidate with
        | some (.file _) => true
        | _ => false
    match found with
    | none => Run.fail line (path ++ ": not found".toList)
    | some found =>
      match (m.disk.find m.process.directory found).map m.disk.textOf with
      | .error t =>
        Run.fail line ("cannot open ".toList ++ found ++ ": ".toList
          ++ Redirection.reason "No such file" t)
      | .ok text => do
        Run.setStatus 0
        Run.upTo (· = .returned) (script n true (text.toOption.getD []))

/-- Starts the program of a name, and says whether there is one. -/
def program : Nat → Nat → Bytes → List Bytes → Run Bool
  | 0, _, _, _ => tooDeep
  | n + 1, line, name, args => do
    let m ← get
    let fail (what : String) (status : Nat) : Run Bool := do
      Run.complain line (name ++ ": ".toList ++ what.toList)
      Run.setStatus status
      return false
    if name.contains '/' then
      match m.disk.find m.process.directory name with
      | .error .absent | .error .notDirectory => fail "not found" 127
      | .error t => fail (String.ofList t.message) 126
      | .ok _ => execute n line name name args
    else
      let found : Search.Found := match m.process.hashed.find? (·.1 = name) with
        | some (_, path) => .path path
        | none => Search.find m.disk m.process.directory m.process.path name
      match found with
      | .missing => fail "not found" 127
      | .denied => fail "Permission denied" 127
      | .path path => do
        Run.update fun p =>
          { p with hashed := p.hashed.filter (·.1 ≠ name) ++ [(name, path)] }
        execute n line name path args

/-- Starts the program at a path under a name, and says whether it can be started. -/
def execute : Nat → Nat → Bytes → Bytes → List Bytes → Run Bool
  | 0, _, _, _, _ => tooDeep
  | n + 1, line, name, path, args => do
    let m ← get
    let fail (what : String) (status : Nat) : Run Bool := do
      Run.complain line (name ++ ": ".toList ++ what.toList)
      Run.setStatus status
      return false
    match m.disk.find m.process.directory path with
    | .error _ => fail "not found" 127
    | .ok k =>
      match m.disk.kind k with
      | .program which => do
        tool n m.process.environment which name args
        return true
      | .file c =>
        if !Search.isStartable (m.disk.node k) then fail "Permission denied" 126
        else match interpreter? c.text with
          | none => do
            tool n m.process.environment "sh".toList "sh".toList (path :: args)
            return true
          | some (tool, more) =>
            if Glob.isThere m.disk m.process.directory tool then
              execute n line tool tool (more ++ path :: args)
            else fail "not found" 127
      | _ => fail "Permission denied" 126

/-- Runs a program of the system in an environment. -/
def tool : Nat → List (Bytes × Bytes) → Bytes → Bytes → List Bytes → Run Unit
  | 0, _, _, _, _ => tooDeep
  | n + 1, environment, which, name, args => do
    if Executable.isShell which then Run.subshell true (ending n (shell n name args))
    else match Executable.find? which, Executable.delegate? which with
      | some program, _ => do
        let slept ← Launch.run program name environment args
        if 0 < slept then
          settle n
          Run.waitUntil ((← Run.process).clock + slept)
      | none, some program => Run.subshell true (ending n do
        let (plan, _) ← Launch.carry (program args) name environment
        if let some plan := plan then perform n name environment plan)
      | none, none => Run.setStatus 0

/-- Carries out what a program of a name planned that starts others. -/
def perform : Nat → Bytes → List (Bytes × Bytes) → Plan → Run Unit
  | 0, _, _, _ => tooDeep
  | n + 1, name, environment, plan => repeating plan fun plan => do
    Run.step
    match plan with
    | .finish status => do
      Run.setStatus status
      return none
    | .die signal => throw (.killed (← Run.process).pid signal)
    | .act x next => do
      let (found, _) ← Launch.carry (do x; get) name environment
      return found.map next
    | .start s next =>
      match startPath (← get).disk s with
      | .error t => return some (next (.missing t))
      | .ok path => do
        let ended ← Run.limited s.limit (ending n (embody n path s))
        return some (next ended)
    | .collect s next =>
      match startPath (← get).disk s with
      | .error t => return some (next (.missing t) [])
      | .ok path => do
        let (ended, text) ← Run.collected (ending n (embody n path s))
        return some (next ended text)
    | .become s next =>
      match startPath (← get).disk s with
      | .error t => return some (next t)
      | .ok path => do
        embody n path s
        return none

/-- The process becomes the program at a path. -/
def embody : Nat → Bytes → Start → Run Unit
  | 0, _, _ => tooDeep
  | n + 1, path, s => do
    Run.update (·.given s)
    match s.input with
    | .shared => pure ()
    | .nothing => Run.connect 0 (some .nothing)
    | .text cs =>
      let source : Stream := ⟨.text cs (← Run.process).clock false, true, false, false⟩
      Run.connect 0 (some (← Run.openStream source))
    let d := (← get).disk
    let args := s.words.tail
    match (d.find s.directory path).map d.kind with
    | .ok (.program which) =>
      if Executable.isShell which then shell n (s.words.headD []) args
      else tool n s.environment which (s.words.headD []) args
    | .ok (.file c) =>
      match interpreter? c.text with
      | none => shell n "sh".toList (path :: args)
      | some (tool, more) => embody n tool { s with words := tool :: more ++ path :: args }
    | _ => Run.setStatus 126

/-- A shell of its own under a name: it carries out a text that it is given, a file or its input. -/
def shell : Nat → Bytes → List Bytes → Run Unit
  | 0, _, _ => tooDeep
  | n + 1, sh, args => do
    match Invocation.read args with
    | .error option => do
      Run.update fun p => p.fresh [] sh []
      Run.fail 0 ("Illegal option ".toList ++ option)
    | .ok i => do
      Run.update fun p => p.fresh i.options sh i.operands
      Run.print 1 i.shown
      match i.textGiven, i.operands with
      | true, text :: rest => do
        Run.update fun p => { p with name := rest.headD sh, params := rest.tail }
        script n false text
      | true, [] => Run.fail 0 "-c requires an argument".toList
      | false, operands =>
        match i.readsInput, operands with
        | false, path :: rest => do
          let m ← get
          match m.disk.find m.process.directory path with
          | .error t =>
            Run.fail 0 ("cannot open ".toList ++ path ++ ": ".toList
              ++ Redirection.reason "No such file" t)
          | .ok k => do
            Run.update fun p => { p with name := path, params := rest }
            script n true ((m.disk.textOf k).toOption.getD [])
        | _, _ => do
          Run.update fun p => { p with options := Builtin.withOption true 's' p.options }
          match ← Run.input 0 with
          | .error _ => pure ()
          | .ok input => do
            Run.advance 0 input input.text.length []
            script n true input.text
            if input.endless then throw .exhausted

/-- Carries out a text. The lines of a file are shown if the options say so. -/
def script : Nat → Bool → Bytes → Run Unit
  | 0, _, _ => tooDeep
  | n + 1, isFile, text =>
    let breaks := text.count '\n'
    repeating text fun cs => do
      if cs.isEmpty then return none
      else
        let p ← Run.process
        let parsed := Parser.line breaks p.aliases cs
        let rest := match parsed with
          | .ok (_, rest) => rest
          | .error e => e.rest
        if isFile && p.has 'v' then Run.print 2 (cs.take (cs.length - rest.length))
        match parsed with
        | .ok (c, rest) => do
          if !p.has 'n' then command n c
          return some rest
        | .error e =>
          Run.fail (Parser.lineOf breaks e.rest) ("Syntax error: ".toList ++ e.fault.message.toList)

/-- What is carried out on signals that have come; the status is what it was. -/
def answer : Nat → Run Unit
  | 0 => tooDeep
  | n + 1 => do
    match nextSignal? (← get) with
    | none => pure ()
    | some (signal, others) => do
      modify fun m => { m with signals := others }
      let p ← Run.process
      if let some (_, text) := p.traps.find? (·.1 = signal) then
        Run.testing false (script n false text)
        Run.setStatus p.status
      answer n

/-- A computation that is all that its process does: at its end comes what is carried out then, and
the commands in the background go on. -/
def ending : Nat → Run Unit → Run Unit
  | 0, _ => tooDeep
  | n + 1, x => do
    discard (Run.endsProcess x)
    let p ← Run.process
    if let some (_, text) := p.traps.find? (·.1 = 0) then
      Run.update fun p => { Signal.set p 0 none with loops := 0, tested := false }
      if !(← Run.endsProcess (script n false text)) then Run.setStatus p.status
    settle n

/-- Carries out the commands in the background that have not been carried out yet. -/
def settle : Nat → Run Unit
  | 0 => tooDeep
  | n + 1 => do
    let m ← get
    let next := m.tasks.findSome? fun t => match t.2 with
      | .waiting p c => some (t.1, p, c)
      | _ => none
    match next with
    | none => pure ()
    | some (pid, p, c) => do
      aside pid p (ending n (Run.testing false (command n c)))
      settle n

end

end Evaluation

end ActionTree.Sh
