import ActionTree.Testing.Sh.Builtin.Variables
import ActionTree.Testing.Sh.Search

/-!
# What a shell is asked for

A shell takes options, and then a text to carry out, a file to read, or parameters if it reads its
input.

* `Invocation.read`: what arguments ask a shell for.
* `Process.fresh`: a process that becomes a shell of its own.
-/

namespace ActionTree.Sh

/-- What a shell is asked for: its options, whether the first operand is the text that is carried
out, whether it reads its input even if there are operands, and the operands. -/
structure Invocation where
  options : List Char
  textGiven : Bool
  readsInput : Bool
  operands : List Bytes
  shown : Bytes

namespace Invocation

/-- The letters of one argument, given the argument behind it for one that names an option. -/
def letters (on : Bool) : Bytes → Invocation → List Bytes → Except Bytes (Invocation × List Bytes)
  | [], i, rest => .ok (i, rest)
  | 'c' :: cs, i, rest => letters on cs { i with textGiven := true } rest
  | 'l' :: cs, i, rest => letters on cs i rest
  | 'o' :: cs, i, [] =>
    letters on cs { i with shown := i.shown ++ Builtin.showOptions on i.options } []
  | 'o' :: cs, i, name :: rest =>
    match Builtin.optionNames.find? (·.1 = String.ofList name) with
    | some (_, c) =>
      letters on cs { i with options := Builtin.withOption on c i.options } rest
    | none => .error ("-o ".toList ++ name)
  | c :: cs, i, rest =>
    if Builtin.isOption c then
      letters on cs { i with
        options := Builtin.withOption on c i.options
        readsInput := i.readsInput || c = 's' } rest
    else .error ['-', c]

/-- What so many arguments ask a shell for, behind others, or an option that there is not. -/
def readIn : Nat → Invocation → List Bytes → Except Bytes Invocation
  | 0, i, _ => .ok i
  | n + 1, i, args =>
    match args with
    | ['-'] :: rest | ['-', '-'] :: rest => .ok { i with operands := rest }
    | (c :: cs) :: rest =>
      if c = '-' || c = '+' then do
        let (i, rest) ← letters (c = '-') cs i rest
        readIn n i rest
      else .ok { i with operands := (c :: cs) :: rest }
    | rest => .ok { i with operands := rest }

/-- What arguments ask a shell for, or an option that there is not. -/
def read (args : List Bytes) : Except Bytes Invocation :=
  readIn (args.length + 1) ⟨[], false, false, [], []⟩ args

end Invocation

/-- The variables of a shell at its start, next to those that it is given. -/
def Process.ownVars : List (Bytes × Var) :=
  let own (name value : String) : Bytes × Var :=
    (name.toList, ⟨some value.toList, false, false⟩)
  [("IFS".toList, ⟨some [' ', '\t', '\n'], false, false⟩), own "OPTIND" "1", own "PPID" "1",
    own "PS1" "# ", own "PS2" "> ", own "PS4" "+ ",
    ("PATH".toList, ⟨some Search.usualPath, false, false⟩)]

/-- A process that becomes a shell of its own, with another name and parameters. It only has the
variables that programs are given, and its own. -/
def Process.fresh (p : Process) (options : List Char) (name : Bytes) (params : List Bytes) :
    Process :=
  let given := p.environment.filter fun v => isName v.1 && v.1 ≠ "IFS".toList
  let own := ownVars.filter fun v => !given.any (·.1 = v.1)
  let plain := given.map fun v => (v.1, Var.mk (some v.2) true false)
  let start := { p with
    vars := (own ++ plain).reverse
    functions := []
    aliases := []
    hashed := []
    name := name
    speaker := none
    params := params
    scan := ⟨1, none⟩
    status := 0
    captured := 0
    loops := 0
    calls := 0
    options := options
    tested := false
    locals := none
    traps := p.traps.filter (·.2.isEmpty)
    shellPid := p.pid
    lastJob := none
    jobs := [] }
  start.withVar "PWD".toList (some ⟨some p.directory, true, false⟩)

end ActionTree.Sh
