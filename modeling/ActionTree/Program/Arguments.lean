/-!
# Arguments of the program

The program is called with options and a command. The options for the path of the settings and for a
verbose log may stand before or behind the command, at most once in each place; behind the command
the path counts more. A word that starts with a hyphen is an option, unless it is a lone hyphen or
stands behind `--`.

In the program: `Cli` and `Commands`, which its argument library reads.

* `Request.ofArguments`: what arguments ask for.
-/

namespace ActionTree.Program

/-- A command of the program. -/
inductive Task where
  | interactive
  | batch (lines : List String)
  | tree
  | settings (defaults : Bool)
  deriving DecidableEq

/-- What the program is asked for. -/
inductive Request where
  /-- A task, with the path of the settings if one is given. -/
  | task (t : Task) (path : Option String)
  | version
  | help
  /-- Arguments that make no sense. -/
  | misuse
  deriving DecidableEq

/-- The names of commands. -/
inductive Name where
  | repl
  | run
  | tree
  | config
  deriving DecidableEq

/-- The command of a name. -/
def Name.ofText? : String → Option Name
  | "repl" => some .repl
  | "run" => some .run
  | "tree" => some .tree
  | "config" => some .config
  | _ => none

/-- An option that an argument stands for. -/
inductive Flag where
  | verbose
  | version
  | help
  | defaults
  /-- The path, unless it is the next argument. -/
  | path (attached : Option String)
  /-- A letter or a name that no option has, or one with a value that it does not take. -/
  | unknown
  deriving DecidableEq

/-- What was found on one side of the command. -/
structure Side where
  path : Option String
  verbose : Bool
  deriving DecidableEq

/-- What was read so far. -/
structure Progress where
  before : Side
  command : Option Name
  behind : Side
  defaults : Bool
  lines : List String
  deriving DecidableEq

namespace Progress

/-- Nothing read yet. -/
def start : Progress := ⟨⟨none, false⟩, none, ⟨none, false⟩, false, []⟩

/-- The side that options belong to now. -/
def side (p : Progress) : Side := if p.command.isSome then p.behind else p.before

/-- The progress with another side. -/
def withSide (p : Progress) (s : Side) : Progress :=
  if p.command.isSome then { p with behind := s } else { p with before := s }

/-- The progress with a path, which must not be empty or the second one. -/
def addPath? (p : Progress) (path : String) : Option Progress :=
  if path.isEmpty || p.side.path.isSome then none
  else some (p.withSide { p.side with path := some path })

/-- The progress with a verbose log, which must not be asked for twice. -/
def addVerbose? (p : Progress) : Option Progress :=
  if p.side.verbose then none else some (p.withSide { p.side with verbose := true })

/-- The progress with a word that is not an option: a command or one of its lines. -/
def addWord? (p : Progress) (word : String) : Option Progress :=
  match p.command with
  | none => (Name.ofText? word).map fun n => { p with command := some n }
  | some .run => some { p with lines := p.lines ++ [word] }
  | some _ => none

/-- The request that the arguments make, given the path that the environment names. That path is
looked at on each side of the command that gives none, and it must not be empty. -/
def request (p : Progress) (fallback : Option String) : Request :=
  let path := (p.behind.path.or p.before.path).or fallback
  if fallback = some "" ∧ (p.before.path.isNone ∨ p.behind.path.isNone) then .misuse
  else match p.command with
    | none => .misuse
    | some .repl => .task .interactive path
    | some .run => if p.lines.isEmpty then .misuse else .task (.batch p.lines) path
    | some .tree => .task .tree path
    | some .config => .task (.settings p.defaults) path

end Progress

/-- The long option of a text without its hyphens. -/
def longFlag (cs : List Char) : Flag :=
  match String.ofList (cs.takeWhile (· ≠ '=')), cs.dropWhile (· ≠ '=') with
  | "config", _ :: value => .path (some (String.ofList value))
  | "config", [] => .path none
  | "verbose", [] => .verbose
  | "version", [] => .version
  | "help", [] => .help
  | "defaults", [] => .defaults
  | _, _ => .unknown

/-- The short options of a text without its hyphen: a path takes all that follows, and behind a
letter that no option has nothing is read. -/
def shortFlags : List Char → List Flag
  | [] => []
  | 'v' :: cs => .verbose :: shortFlags cs
  | 'V' :: cs => .version :: shortFlags cs
  | 'h' :: cs => .help :: shortFlags cs
  | ['c'] => [.path none]
  | 'c' :: '=' :: cs => [.path (some (String.ofList cs))]
  | 'c' :: cs => [.path (some (String.ofList cs))]
  | _ :: _ => [.unknown]

/-- The options that an argument stands for, if it is not a word. -/
def flags? (arg : String) : Option (List Flag) :=
  match arg.toList with
  | '-' :: '-' :: cs => some [longFlag cs]
  | '-' :: c :: cs => some (shortFlags (c :: cs))
  | _ => none

/-- Does an argument look like an option? -/
def looksLikeFlag (arg : String) : Bool := (flags? arg).isSome

/-- What comes of an option. -/
inductive Step where
  | goesOn (p : Progress)
  /-- The next argument is the path. -/
  | needsPath
  | answer (r : Request)

/-- The step to a progress, if it makes sense. -/
def Step.ofProgress : Option Progress → Step
  | some p => .goesOn p
  | none => .answer .misuse

/-- What comes of an option at some progress. -/
def Flag.step (p : Progress) : Flag → Step
  | .verbose => .ofProgress p.addVerbose?
  | .version => .answer (if p.command.isNone then .version else .misuse)
  | .help => .answer .help
  | .unknown => .answer .misuse
  | .defaults =>
    if p.command = some .config ∧ !p.defaults then .goesOn { p with defaults := true }
    else .answer .misuse
  | .path none => .needsPath
  | .path (some text) => .ofProgress (p.addPath? text)

/-- What comes of several options, from the first one on. -/
def stepAll (p : Progress) : List Flag → Step
  | [] => .goesOn p
  | f :: fs => match f.step p with
    | .goesOn p => stepAll p fs
    | s => s

/-- Words behind `--`. -/
def wordsOnly (fallback : Option String) (p : Progress) : List String → Request
  | [] => p.request fallback
  | w :: ws =>
    match if p.command.isSome then p.addWord? w else none with
    | some p => wordsOnly fallback p ws
    | none => .misuse

/-- The request of the word `help`, behind which at most one command may be named. -/
def helpFor : List String → Request
  | [] => .help
  | [word] => if word = "help" ∨ (Name.ofText? word).isSome then .help else .misuse
  | _ => .misuse

/-- What arguments ask for, given the progress so far. -/
def readArguments (fallback : Option String) (p : Progress) : List String → Request
  | [] => p.request fallback
  | "--" :: rest => wordsOnly fallback p rest
  | arg :: rest =>
    match flags? arg with
    | none => match p.addWord? arg with
      | some p => readArguments fallback p rest
      | none => if p.command.isNone && arg = "help" then helpFor rest else .misuse
    | some fs =>
      match stepAll p fs, rest with
      | .goesOn p, rest => readArguments fallback p rest
      | .answer r, _ => r
      | .needsPath, value :: rest =>
        if looksLikeFlag value then .misuse
        else match p.addPath? value with
          | some p => readArguments fallback p rest
          | none => .misuse
      | .needsPath, [] => .misuse

/-- What arguments ask for, given the path that the environment names. -/
def Request.ofArguments (fallback : Option String) (args : List String) : Request :=
  readArguments fallback .start args

end ActionTree.Program
