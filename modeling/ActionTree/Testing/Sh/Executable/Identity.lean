import ActionTree.Testing.Sh.Executable.Options
import ActionTree.Testing.Sh.Search

/-!
# Programs that say where and as whom they run

`uname` and `arch` name the system, `id`, `whoami`, `groups` and `logname` the user, `tty` the
terminal, `printenv` what the environment holds, and `which` where programs are.
-/

namespace ActionTree.Sh.Identity

/-! ## The system -/

/-- What is said of the system, each with the option that asks for it, in the order in which it is
printed. -/
def system : List (Char × String) :=
  [('s', "Linux"), ('n', "localhost"), ('r', "6.8.0"), ('v', "#1 SMP"), ('m', "x86_64"),
    ('p', "x86_64"), ('i', "x86_64"), ('o', "GNU/Linux")]

/-- Names the system. -/
def uname : Executable := withOptions "asnrvmpio"
  [("all", .never, 'a'), ("kernel-name", .never, 's'), ("nodename", .never, 'n'),
    ("kernel-release", .never, 'r'), ("kernel-version", .never, 'v'), ("machine", .never, 'm'),
    ("processor", .never, 'p'), ("hardware-platform", .never, 'i'),
    ("operating-system", .never, 'o')] fun o => do
  if let some arg := o.operands.head? then Act.misuse ("extra operand ".toList ++ visibly arg)
  let wanted := system.filter fun w => o.has 'a' || o.has w.1 || (o.given.isEmpty && w.1 = 's')
  Act.put (fed (spaced (wanted.map (·.2.toList))))

/-- A program without operands that prints a line. -/
def sentence (line : String) : Executable := withOptions "" [] fun o => do
  if let some arg := o.operands.head? then Act.misuse ("extra operand ".toList ++ visibly arg)
  Act.put (fed line.toList)

/-! ## The user -/

/-- The program that tells the name of the user who logged in: nobody did. -/
def logname : Executable := withOptions "" [] fun o => do
  if let some arg := o.operands.head? then Act.misuse ("extra operand ".toList ++ visibly arg)
  Act.quit "no login name".toList

/-- Names the terminal of the input, which is none. -/
def tty : Executable := fun args => do
  Act.setFailing 2
  let o ← Options.read ⟨"s", [("silent", .never, 's'), ("quiet", .never, 's')], true⟩ args
  if let some arg := o.operands.head? then Act.misuse ("extra operand ".toList ++ visibly arg)
  if !o.has 's' then Act.put (fed "not a tty".toList)
  Act.setStatus 1

/-- The user that an operand names; for one that there is not a message is written. -/
def user? (arg : Bytes) : Act (Option Account) := do
  let found := Account.find? arg
  if found.isNone then Act.complain (visibly arg ++ ": no such user".toList)
  return found

/-- A number or the name of what has it. -/
def numberOr (named : Bool) (number : Nat) (name : String) : Bytes :=
  if named then name.toList else decimal number

/-- What `id` prints of a user. -/
def facts (o : Options) (a : Account) : Bytes :=
  let named := o.has 'n'
  let one (text : Bytes) : Bytes := text ++ [if o.has 'z' then '\x00' else '\n']
  if o.has 'u' then one (numberOr named a.number a.name)
  else if o.has 'g' || o.has 'G' then one (numberOr named a.group a.groupName)
  else
    let with_ (label : String) (number : Nat) (name : String) : Bytes :=
      label.toList ++ '=' :: decimal number ++ '(' :: name.toList ++ [')']
    fed (spaced [with_ "uid" a.number a.name, with_ "gid" a.group a.groupName,
      with_ "groups" a.group a.groupName])

/-- Prints the numbers and names of users. -/
def id : Executable := withOptions "aZgGnruz"
  [("context", .never, 'Z'), ("group", .never, 'g'), ("groups", .never, 'G'), ("name", .never, 'n'),
    ("real", .never, 'r'), ("user", .never, 'u'), ("zero", .never, 'z')] fun o => do
  let only := ['u', 'g', 'G', 'Z'].filter o.has
  if 1 < only.length then Act.quit "cannot print \"only\" of more than one choice".toList
  if only.isEmpty && (o.has 'r' || o.has 'n') then
    Act.quit "cannot print only names or real IDs in default format".toList
  if only.isEmpty && o.has 'z' then
    Act.quit "option --zero not permitted in default format".toList
  if o.operands.isEmpty then Act.put (facts o .own)
  for arg in o.operands do
    if let some a ← user? arg then Act.put (facts o a)

/-- Prints the groups of users. -/
def groups : Executable := withOptions "" [] fun o => do
  if o.operands.isEmpty then Act.put (fed Account.own.groupName.toList)
  for arg in o.operands do
    if let some a ← user? arg then
      Act.put (fed (arg ++ " : ".toList ++ a.groupName.toList))

/-! ## The environment -/

/-- Prints values of the environment, or all of it. -/
def printenv : Executable := fun args => do
  Act.setFailing 2
  let o ← Options.read ⟨"0", [("null", .never, '0')], false⟩ args
  let end_ := if o.has '0' then '\x00' else '\n'
  let environment := (← get).environment
  if o.operands.isEmpty then
    Act.put (environment.flatMap fun v => v.1 ++ '=' :: v.2 ++ [end_])
  for name in o.operands do
    match environment.find? (·.1 = name) with
    | some v => Act.put (v.2 ++ [end_])
    | none => Act.setStatus 1

/-- The paths of the program of a name that can be started. -/
def pathsOf (s : Scene) (directories name : Bytes) : List Bytes :=
  let paths :=
    if name.contains '/' then [name]
    else (splitAt ':' directories).map fun d => (if d.isEmpty then ['.'] else d) ++ '/' :: name
  paths.filter fun path =>
    ((s.disk.find s.directory path).map s.disk.node).toOption.any Search.isStartable

/-- Prints where programs are: of each the first place, or all places. -/
def which : Executable := fun args => do
  let s ← get
  let directories := ((← Act.setting? "PATH").getD [])
  match Options.readIn ⟨"as", [], false⟩ (args.length + 1) args with
  | .error fault => do
    let letter := match fault with
      | .unknown c => c
      | _ => '-'
    Act.putMessage (fed ("Illegal option -".toList ++ [letter]))
    let path := ((pathsOf s directories s.name).head?).getD s.name
    Act.put (fed ("Usage: ".toList ++ path ++ " [-as] args".toList))
    Act.finish 2
  | .ok o => do
    if o.operands.isEmpty then Act.setStatus 1
    for name in o.operands do
      let paths := pathsOf s directories name
      if paths.isEmpty then Act.setStatus 1
      if !o.has 's' then Act.put (ofLines (if o.has 'a' then paths else paths.take 1))

end ActionTree.Sh.Identity
