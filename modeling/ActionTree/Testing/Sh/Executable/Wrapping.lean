import ActionTree.Testing.Sh.Executable.Options
import ActionTree.Testing.Sh.Executable.Streams
import ActionTree.Testing.Sh.Plan
import ActionTree.Testing.Sh.Signal

/-!
# Programs that become another program

`env` changes the environment of a program, `nice` and `nohup` start one as it is, and `timeout`
ends one that takes too long.

* `Environment.put`, `Environment.erase`: changes of an environment.
-/

namespace ActionTree.Sh

namespace Environment

/-- The environment without a variable. -/
def erase (name : Bytes) (e : List (Bytes × Bytes)) : List (Bytes × Bytes) := e.filter (·.1 ≠ name)

/-- The environment with another value of a variable; a new one comes last. -/
def put (name value : Bytes) (e : List (Bytes × Bytes)) : List (Bytes × Bytes) :=
  if e.any (·.1 = name) then e.map fun v => if v.1 = name then (name, value) else v
  else e ++ [(name, value)]

/-- The name and the value in a text with an equals sign between them. -/
def assignment? (text : Bytes) : Option (Bytes × Bytes) :=
  match text.dropWhile (· ≠ '=') with
  | [] => none
  | _ :: value => some (text.takeWhile (· ≠ '='), value)

/-- An environment changed by the assignments in front of other words. -/
def assign : List (Bytes × Bytes) → List Bytes → List (Bytes × Bytes) × List Bytes
  | e, [] => (e, [])
  | e, word :: rest =>
    match assignment? word with
    | some (name, value) => assign (put name value e) rest
    | none => (e, word :: rest)

end Environment

namespace Wrapping

/-- What is said of a program that cannot be started, and the end. -/
def notStarted (label : String) (words : List Bytes) (t : Trouble) : Plan :=
  .fail (label.toList ++ visibly (words.headD []) ++ ": ".toList ++ t.message) (Plan.statusOf t)

/-! ## Another environment -/

/-- A program in an environment that is changed first, or what is in that environment. -/
def env : Delegate := fun args => do
  Act.setFailing 125
  let o ← Options.read ⟨"iu:0C:", [("ignore-environment", .never, 'i'), ("null", .never, '0'),
    ("unset", .always, 'u'), ("chdir", .always, 'C')], false⟩ args
  let s ← get
  let bare := o.operands.head? = some ['-']
  let words := if bare then o.operands.drop 1 else o.operands
  if !(o.has 'i' || bare) then
    for name in o.values 'u' do
      if name.isEmpty || name.contains '=' then
        Act.quit ("cannot unset ".toList ++ visibly name ++ ": ".toList ++ Trouble.message .invalid)
  let start := if o.has 'i' || bare then []
    else (o.values 'u').foldl (fun e name => Environment.erase name e) s.environment
  let (environment, words) := Environment.assign start words
  if o.has '0' && !words.isEmpty then Act.misuse "cannot specify --null (-0) with command".toList
  if (o.value? 'C').isSome && words.isEmpty then
    Act.misuse "must specify command with --chdir (-C)".toList
  if words.isEmpty then
    let end_ := if o.has '0' then '\x00' else '\n'
    Act.put (environment.flatMap fun v => v.1 ++ '=' :: v.2 ++ [end_])
    return .finish 0
  let directory ← match o.value? 'C' with
    | none => pure s.directory
    | some path =>
      match s.disk.place true s.directory path with
      | .ok p =>
        match p.node.map s.disk.kind with
        | some (.directory _) => pure p.path
        | some _ => noDirectory path .notDirectory
        | none => noDirectory path .absent
      | .error t => noDirectory path t
  return .become ⟨words, environment, directory, .shared, none⟩ fun t =>
    let hint := "use -[v]S to pass options in shebang lines".toList
    if t = .absent && (words.headD []).contains ' ' then
      .act (Act.warn (visibly (words.headD []) ++ ": ".toList ++ t.message)) fun _ => .fail hint 127
    else notStarted "" words t
where
  /-- What is said of a directory that cannot be entered. -/
  noDirectory {α : Type} (path : Bytes) (t : Trouble) : Act α :=
    Act.quit ("cannot change directory to ".toList ++ quotedName path ++ ": ".toList ++ t.message)

/-! ## The same program -/

/-- A number of digits with an optional sign, without its sign. -/
def signless (cs : Bytes) : Bytes :=
  match cs with
  | '-' :: rest | '+' :: rest => rest
  | cs => cs

/-- A program that would run with another priority, or the priority itself. -/
def nice : Delegate := fun args => do
  Act.setFailing 125
  let isBare (a : Bytes) : Bool := match a with
    | '-' :: rest => (signless rest).head?.any Char.isDigit
    | _ => false
  let bare := args.takeWhile isBare
  let o ← Options.read ⟨"n:", [("adjustment", .always, 'n')], false⟩ (args.drop bare.length)
  let given := (bare.map (·.drop 1) ++ o.values 'n').getLast?
  if let some text := given then
    if (signless text).isEmpty || !(signless text).all Char.isDigit then
      Act.quit ("invalid adjustment ".toList ++ visibly text)
  if o.operands.isEmpty then
    if given.isSome then Act.misuse "a command must be given with an adjustment".toList
    Act.put (fed ['0'])
    return .finish 0
  return .become (.inScene (← get) o.operands) (notStarted "" o.operands)

/-- A program that would go on without a terminal. -/
def nohup : Delegate := fun args => do
  Act.setFailing 125
  let o ← Options.read ⟨"", [], false⟩ args
  if o.operands.isEmpty then Act.misuse "missing operand".toList
  return .become (.inScene (← get) o.operands) (notStarted "failed to run command " o.operands)

/-! ## A limit on the time -/

/-- The signal that a text names, which may start with `SIG`. -/
def signal? (text : Bytes) : Option Nat :=
  let upper := text.map Char.toUpper
  Signal.ofText? (if "SIG".toList.isPrefixOf upper then upper.drop 3 else upper)

/-- A duration, or a message and the end. -/
def duration (text : Bytes) : Act Nat := do
  match Streams.duration? text with
  | some n => return n
  | none => Act.misuse ("invalid time interval ".toList ++ visibly text)

/-- A program that is killed if it takes too long. -/
def timeout : Delegate := fun args => do
  Act.setFailing 125
  let o ← Options.read ⟨"k:s:v", [("foreground", .never, 'f'), ("kill-after", .always, 'k'),
    ("preserve-status", .never, 'p'), ("signal", .always, 's'),
    ("verbose", .never, 'v')], false⟩ args
  for text in o.values 'k' do
    discard (duration text)
  let mut signal := 15
  for text in o.values 's' do
    match signal? text with
    | some n => signal := n
    | none => Act.misuse (visibly text ++ ": invalid signal".toList)
  match o.operands with
  | text :: name :: more => do
    let limit ← duration text
    let words := name :: more
    let s : Start := { Start.inScene (← get) words with
      limit := if limit = 0 then none else some (limit, signal) }
    let told :=
      "sending signal ".toList ++ Signal.nameOf signal ++ " to command ".toList ++ visibly name
    let stopped : Plan :=
      if signal = 9 then .die 9 else .finish (if o.has 'p' then 128 + signal else 124)
    return .start s fun ending => match ending with
      | .status n => .finish n
      | .signal n => .die n
      | .late => if o.has 'v' then .act (Act.warn told) (fun _ => stopped) else stopped
      | .missing t => notStarted "failed to run command " words t
  | _ => Act.refer

end Wrapping

end ActionTree.Sh
