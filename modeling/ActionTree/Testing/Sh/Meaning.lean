import ActionTree.Testing.Sh.Builtin.Settings
import ActionTree.Testing.Sh.Builtin.Variables
import ActionTree.Testing.Sh.Job
import ActionTree.Testing.Sh.Search

/-!
# What the name of a command stands for

A name is a keyword, an alias, a function, a command of the shell or a program, in this order.

* `Builtin.find?`: the command of the shell of a name, apart from those that run other commands.
* `Meaning.of`: what a name stands for.
* `Meaning.explain`, `Meaning.locate`, `Meaning.remember`: the commands that say so.
-/

namespace ActionTree.Sh.Builtin

/-- The commands by name. -/
def all : List (String × Builtin) :=
  [(":", status 0), ("true", status 0), ("false", status 1), ("cd", changeDirectory),
    ("chdir", changeDirectory), ("pwd", directory), ("umask", mask), ("ulimit", limit),
    ("alias", alias_), ("unalias", unalias), ("trap", Signal.trap), ("kill", Signal.kill),
    ("exit", exit), ("return", leaveFunction), ("break", leave .leave),
    ("continue", leave .again), ("echo", echo), ("printf", printf), ("test", evaluate),
    ("[", bracket), ("times", times), ("export", passOn), ("readonly", makeFixed),
    ("local", makeLocal), ("unset", unset), ("set", set), ("shift", shift), ("getopts", getopts),
    ("read", read), ("wait", Job.wait), ("jobs", Job.list), ("fg", Job.resume),
    ("bg", Job.resume)]

/-- The command of a name. -/
def find? (name : Bytes) : Option Builtin := (all.find? (·.1 = String.ofList name)).map (·.2)

/-- The names of the commands that run or look at other commands. -/
def others : List String := [".", "command", "eval", "exec", "hash", "type"]

/-- Is it the name of a command of the shell? -/
def isName (name : Bytes) : Bool :=
  (find? name).isSome || others.contains (String.ofList name)

end ActionTree.Sh.Builtin

namespace ActionTree.Sh

/-- What the name of a command stands for. -/
inductive Meaning where
  | keyword
  | alias (text : Bytes)
  | function
  | special
  | builtin
  /-- A program, and whether it was found before. -/
  | program (path : Bytes) (known : Bool)
  | nothing

namespace Meaning

/-- What a name stands for. -/
def of (d : Disk) (p : Process) (name : Bytes) : Meaning :=
  if keywords.contains (String.ofList name) then .keyword
  else match p.aliases.find? (·.1 = name) with
    | some (_, text) => .alias text
    | none =>
      if isReserved name then .special
      else if p.functions.any (·.1 = name) then .function
      else if Builtin.isName name then .builtin
      else if name.contains '/' then
        if Glob.isThere d p.directory name then .program name false else .nothing
      else match p.hashed.find? (·.1 = name) with
        | some (_, path) => .program path true
        | none => match Search.find d p.directory p.path name with
          | .path path => .program path false
          | _ => .nothing

/-- What is said of a name. -/
def sentence (name : Bytes) (m : Meaning) : Bytes :=
  let what : Bytes := match m with
    | .keyword => " is a shell keyword".toList
    | .alias text => " is an alias for ".toList ++ text
    | .function => " is a shell function".toList
    | .special => " is a special shell builtin".toList
    | .builtin => " is a shell builtin".toList
    | .program path known =>
      (if known then " is a tracked alias for " else " is ").toList ++ path
    | .nothing => ": not found".toList
  name ++ what

/-- A name as it can be used as a command. -/
def usable? (name : Bytes) : Meaning → Option Bytes
  | .alias text => some ("alias ".toList ++ name ++ '=' :: Builtin.readable text)
  | .program path _ => some path
  | .nothing => none
  | _ => some name

/-- Says what names stand for. -/
def explain : Builtin := fun line args => do
  let names := (← Flags.read "" "" line args).rest
  Run.setStatus 0
  for name in names do
    let m ← get
    let meaning := of m.disk m.process name
    Run.print 1 (sentence name meaning ++ ['\n'])
    if let .nothing := meaning then Run.setStatus 127

/-- Says in one word what a name stands for. -/
def locate : Builtin := fun _ args => do
  match args with
  | [] => Run.setStatus 0
  | name :: _ => do
    let m ← get
    match usable? name (of m.disk m.process name) with
    | some word => do
      Run.print 1 (word ++ ['\n'])
      Run.setStatus 0
    | none => Run.setStatus 127

/-- Looks for programs and remembers where they are, or shows what is remembered. -/
def remember : Builtin := fun line args => do
  let flags ← Flags.read "rv" "" line args
  Run.setStatus 0
  if flags.has 'r' then Run.update fun p => { p with hashed := [] }
  else if flags.rest.isEmpty then
    Run.print 1 ((Builtin.inSlots 31 (← Run.process).hashed).flatMap fun h => h.2 ++ ['\n'])
  else
    for name in flags.rest do
      let m ← get
      match of m.disk { m.process with aliases := [], hashed := [] } name with
      | .nothing => do
        Run.complain line (name ++ ": not found".toList)
        Run.setStatus 1
      | .program path _ =>
        if !name.contains '/' then
          Run.update fun p =>
            { p with hashed := p.hashed.filter (·.1 ≠ name) ++ [(name, path)] }
      | _ => pure ()

end Meaning

end ActionTree.Sh
