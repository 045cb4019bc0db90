import ActionTree.Testing.Sh.Expansion
import ActionTree.Testing.Sh.Test

/-!
# Commands that are part of the shell

A `Builtin` takes the line it stands on and its arguments. Here are those that print, test and end
something.

* `Flags.read`: options told apart from the arguments behind them.
* `Builtin.natural`: the number that an argument is.
-/

namespace ActionTree.Sh

/-- A command that is part of the shell: it takes the line it stands on and its arguments. -/
abbrev Builtin := Nat → List Bytes → Run Unit

/-- The options of a command of the shell, each with its value if it takes one, and the arguments
behind them. -/
structure Flags where
  given : List (Char × Bytes)
  rest : List Bytes

namespace Flags

/-- The options of one argument: one that takes a value takes what follows, perhaps the next
argument. -/
def letters (plain valued : List Char) :
    Bytes → List Bytes → Except Bytes (List (Char × Bytes) × List Bytes)
  | [], rest => .ok ([], rest)
  | c :: cs, rest =>
    if plain.contains c then
      (letters plain valued cs rest).map fun (more, out) => ((c, []) :: more, out)
    else if valued.contains c then
      match cs, rest with
      | _ :: _, rest => .ok ([(c, cs)], rest)
      | [], value :: rest => .ok ([(c, value)], rest)
      | [], [] => .error ("No arg for -".toList ++ c :: " option".toList)
    else .error ("Illegal option -".toList ++ [c])

/-- The options at the start of so many arguments, given the letters without and with a value. -/
def readIn (plain valued : List Char) : Nat → List Bytes → Except Bytes Flags
  | 0, args => .ok ⟨[], args⟩
  | n + 1, args =>
    match args with
    | ['-', '-'] :: rest => .ok ⟨[], rest⟩
    | ('-' :: c :: cs) :: rest => do
      let (given, rest) ← letters plain valued (c :: cs) rest
      let more ← readIn plain valued n rest
      return ⟨given ++ more.given, more.rest⟩
    | args => .ok ⟨[], args⟩

/-- The options at the start of arguments. An option that there is not ends the command. -/
def read (plain valued : String) (line : Nat) (args : List Bytes) : Run Flags :=
  match readIn plain.toList valued.toList (args.length + 1) args with
  | .ok f => return f
  | .error what => Run.fail line what

/-- Is an option given? -/
def has (f : Flags) (c : Char) : Bool := f.given.any (·.1 = c)

/-- The value of an option; of several the last one counts. -/
def value? (f : Flags) (c : Char) : Option Bytes := (f.given.reverse.find? (·.1 = c)).map (·.2)

end Flags

namespace Builtin

/-- The number that an argument is, or the end of the command. -/
def natural (line : Nat) (arg : Bytes) : Run Nat :=
  match Arith.decimal? arg with
  | some v =>
    if 0 ≤ v ∧ v < countBound then return v.toNat
    else Run.fail line ("Illegal number: ".toList ++ arg)
  | none => Run.fail line ("Illegal number: ".toList ++ arg)

/-- A text between single quotes, as the shell could read it: each part without quotes is between
single quotes, and single quotes are between double quotes. -/
def readable (cs : Bytes) : Bytes :=
  if cs.isEmpty then ['\x27', '\x27'] else go (cs.length + 1) cs
where
  /-- The parts of a text that is shorter than a bound. -/
  go : Nat → Bytes → Bytes
    | 0, _ => []
    | n + 1, cs =>
      if cs.isEmpty then []
      else
        let (plain, rest) := cs.span (· ≠ '\x27')
        let (quotes, rest) := rest.span (· = '\x27')
        (if plain.isEmpty then [] else '\x27' :: plain ++ ['\x27']) ++
          (if quotes.isEmpty then [] else '"' :: quotes ++ ['"']) ++ go n rest

/-- A command that prints nothing. -/
def status (n : Nat) : Builtin := fun _ _ => Run.setStatus n

/-- The end of the process, with a status or with that of the last command. -/
def exit : Builtin := fun line args => do
  if let arg :: _ := args then
    Run.setStatus ((← natural line arg) % 256)
  throw .exit

/-- The end of a function, with a status or with that of the last command. -/
def leaveFunction : Builtin := fun line args => do
  if let arg :: _ := args then
    Run.setStatus (← natural line arg)
  throw .returned

/-- Leaves loops. Outside of a loop nothing happens. -/
def leave (halt : Nat → Halt) : Builtin := fun line args => do
  let n ← match args with
    | arg :: _ => natural line arg
    | [] => pure 1
  if n = 0 then Run.fail line ("Illegal number: ".toList ++ args.headD [])
  Run.setStatus 0
  let loops := (← Run.process).loops
  if 0 < loops then throw (halt (min n loops))

/-- Prints the arguments. -/
def echo : Builtin := fun _ args => do
  Run.print 1 (echoed args)
  Run.setStatus 0

/-- What is said of an argument that is not a number. -/
def flawMessage (arg : Bytes) (flaw : Format.Flaw) : Bytes :=
  let what := match flaw with
    | .noNumber => "expected numeric value"
    | .incomplete => "not completely converted"
    | .outOfRange => "Numerical result out of range"
  arg ++ ": ".toList ++ what.toList

/-- Prints a format. -/
def printf : Builtin := fun line args => do
  match (← Flags.read "" "" line args).rest with
  | [] => Run.fail line "usage: printf format [arg ...]".toList
  | format :: args =>
    let show_ (p : Format.Printed) : Run Unit := do
      for (arg, flaw) in p.complaints.reverse do
        Run.complain line (flawMessage arg flaw)
      Run.print 1 p.reversed.reverse
      Run.setStatus (if p.complaints.isEmpty then 0 else 1)
    match Format.print format args with
    | .ok p => show_ p
    | .error s => do
      show_ s.printed
      Run.fail line s.reason

/-- Evaluates a test. -/
def evaluate : Builtin := fun line args => do
  let m ← get
  match Test.holds ⟨m.disk, m.process.directory⟩ (args.length + 1) args with
  | .ok b => Run.setStatus (if b then 0 else 1)
  | .error what => Run.fail line what

/-- A test in brackets. -/
def bracket : Builtin := fun line args => do
  if args.getLast? = some [']'] then evaluate line args.dropLast
  else Run.fail line "missing ]".toList

/-- The processor time that was used, which is little. -/
def times : Builtin := fun _ _ => do
  let row := "0m0.000000s 0m0.000000s\n".toList
  Run.print 1 (row ++ row)
  Run.setStatus 0

end Builtin

end ActionTree.Sh
