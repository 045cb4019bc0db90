import ActionTree.Testing.Sh.Builtin.Basic

/-!
# Variables, parameters and options of the shell

* `Builtin.passOn`, `Builtin.makeFixed`, `Builtin.makeLocal`, `Builtin.unset`: variables.
* `Builtin.set`, `Builtin.shift`, `Builtin.getopts`: options and parameters.
* `Builtin.read`: a line of the input, split between variables.
-/

namespace ActionTree.Sh.Builtin

/-- A name and the value that an argument gives it. -/
def definition (arg : Bytes) : Bytes × Option Bytes :=
  match arg.dropWhile (· ≠ '=') with
  | _ :: value => (arg.takeWhile (· ≠ '='), some value)
  | [] => (arg, none)

/-- Ends the command if a text is no name. -/
def checkName (line : Nat) (x : Bytes) : Run Unit := do
  if !isName x then Run.fail line (x ++ ": bad variable name".toList)

/-- Shows variables in order, each behind a word, as the shell could read them. -/
def showVars (word : Bytes) (wanted : Var → Bool) : Run Unit := do
  let vars := ((← Run.process).vars.filter fun v => wanted v.2).mergeSort fun a b =>
    inOrder (a.1 ++ ['=']) (b.1 ++ ['='])
  let label := if word.isEmpty then [] else word ++ [' ']
  Run.print 1 (vars.flatMap fun (x, v) =>
    label ++ x ++ (v.value.elim [] fun text => '=' :: readable text) ++ ['\n'])
  Run.setStatus 0

/-- Marks variables, which may take values, or shows those that are marked. -/
def define (word : String) (isMarked : Var → Bool) (mark : Var → Var) : Builtin :=
  fun line args => do
    let flags ← Flags.read "p" "" line args
    if flags.has 'p' || flags.rest.isEmpty then showVars word.toList isMarked
    else
      for arg in flags.rest do
        let (x, value) := definition arg
        checkName line x
        if let some v := value then Run.assign line x v
        Run.mark x mark
      Run.setStatus 0

/-- Gives variables values that are passed on to programs. -/
def passOn : Builtin := define "export" (·.exported) fun v => { v with exported := true }

/-- Gives variables values that stay. -/
def makeFixed : Builtin := define "readonly" (·.fixed) fun v => { v with fixed := true }

/-- Gives variables values up to the end of the function. A hyphen stands for the options. -/
def makeLocal : Builtin := fun line args => do
  if (← Run.process).locals.isNone then Run.fail line "not in a function".toList
  for arg in args do
    if arg = ['-'] then
      Run.update fun p => { p with locals := p.locals.map (.options p.options :: ·) }
    else
      let (x, value) := definition arg
      checkName line x
      Run.update fun p => { p with locals := p.locals.map (.var x (p.var? x) :: ·) }
      if let some v := value then Run.assign line x v
  Run.setStatus 0

/-- Removes variables, or functions. -/
def unset : Builtin := fun line args => do
  let flags ← Flags.read "vf" "" line args
  let functions := (flags.given.getLast?).any (·.1 = 'f')
  for x in flags.rest do
    if functions then
      Run.update fun p => { p with functions := p.functions.filter (·.1 ≠ x) }
    else
      checkName line x
      Run.checkChangeable line x
      Run.unassign x
  Run.setStatus 0

/-! ## Options and parameters -/

/-- The options by name. The last ones have no letters that anybody could use. -/
def optionNames : List (String × Char) :=
  [("errexit", 'e'), ("noglob", 'f'), ("ignoreeof", 'I'), ("interactive", 'i'), ("monitor", 'm'),
    ("noexec", 'n'), ("stdin", 's'), ("xtrace", 'x'), ("verbose", 'v'), ("vi", 'V'),
    ("emacs", 'E'), ("noclobber", 'C'), ("allexport", 'a'), ("notify", 'b'), ("nounset", 'u'),
    ("privileged", 'p'), ("nolog", '\x01'), ("debug", '\x02')]

/-- Is the character the letter of an option? -/
def isOption (c : Char) : Bool := Expansion.letterOrder.contains c

/-- Options with one of them set or not. -/
def withOption (on : Bool) (c : Char) (options : List Char) : List Char :=
  let others := options.filter (· ≠ c)
  if on then c :: others else others

/-- Shows which options are set, as a table or as commands that set them. -/
def showOptions (table : Bool) (options : List Char) : Bytes :=
  if table then
    "Current option settings\n".toList ++ optionNames.flatMap fun (name, c) =>
      pad true 16 name.toList ++ (if options.contains c then "on\n" else "off\n").toList
  else
    optionNames.flatMap fun (name, c) =>
      (if options.contains c then "set -o " else "set +o ").toList ++ name.toList ++ ['\n']

/-- What arguments do to options: the options, what is shown, and the arguments behind them, if the
parameters are to be those. -/
structure OptionReading where
  options : List Char
  shown : Bytes
  params : Option (List Bytes)

/-- Reads the letters of an argument, given the argument behind it for one that names an option. -/
def readLetters (on : Bool) :
    Bytes → List Char → Bytes → List Bytes → Except Bytes (List Char × Bytes × List Bytes)
  | [], options, shown, rest => .ok (options, shown, rest)
  | 'o' :: cs, options, shown, [] =>
    readLetters on cs options (shown ++ showOptions on options) []
  | 'o' :: cs, options, shown, name :: rest =>
    match optionNames.find? (·.1 = String.ofList name) with
    | some (_, c) => readLetters on cs (withOption on c options) shown rest
    | none => .error ("Illegal option -o ".toList ++ name)
  | c :: cs, options, shown, rest =>
    if isOption c then readLetters on cs (withOption on c options) shown rest
    else .error ("Illegal option -".toList ++ [c])

/-- Reads so many arguments that set options. -/
def readOptions : Nat → OptionReading → List Bytes → Except Bytes OptionReading
  | 0, r, _ => .ok r
  | n + 1, r, args =>
    match args with
    | [] => .ok r
    | ['-', '-'] :: rest => .ok { r with params := some rest }
    | ['-'] :: rest =>
      let options := r.options.filter fun c => c ≠ 'x' && c ≠ 'v'
      .ok { r with options := options, params := if rest.isEmpty then none else some rest }
    | (c :: cs) :: rest =>
      if c = '-' || c = '+' then do
        let (options, shown, rest) ← readLetters (c = '-') cs r.options r.shown rest
        readOptions n ⟨options, shown, none⟩ rest
      else .ok { r with params := some ((c :: cs) :: rest) }
    | rest => .ok { r with params := some rest }

/-- The process with other positional parameters. -/
def withParams (p : Process) (params : List Bytes) : Process :=
  { p with params := params, scan := ⟨1, none⟩ }

/-- Sets options and the positional parameters, or shows the variables. -/
def set : Builtin := fun line args => do
  if args.isEmpty then showVars [] (·.value.isSome)
  else
    match readOptions (args.length + 1) ⟨(← Run.process).options, [], none⟩ args with
    | .error what => Run.fail line what
    | .ok r => do
      Run.print 1 r.shown
      Run.update fun p =>
        let p := { p with options := r.options }
        match r.params with
        | some params => withParams p params
        | none => p
      Run.setStatus 0

/-- Drops positional parameters. -/
def shift : Builtin := fun line args => do
  let n ← match args with
    | arg :: _ => natural line arg
    | [] => pure 1
  if (← Run.process).params.length < n then Run.fail line "can't shift that many".toList
  Run.update fun p => withParams p (p.params.drop n)
  Run.setStatus 0

/-- What a step through options finds: the option, its value, a message, and where to go on. -/
structure Step where
  option : Bytes
  value : Option Bytes
  message : Bytes
  scan : Scan
  /-- Are there no options any more? -/
  done : Bool

/-- The next option of arguments, given the letters of the options, each with a colon behind it if
it takes a value. A colon in front of them all means that there are no messages. -/
def nextOption (letters : Bytes) (args : List Bytes) (scan : Scan) : Step :=
  let quiet := letters.head? = some ':'
  let letters := if quiet then letters.tail else letters
  let within : Bytes := match scan.offset with
    | some k => if 1 < scan.index then ((args[scan.index - 2]?).getD []).drop k else []
    | none => []
  let finish (index : Nat) : Step := ⟨['?'], none, [], ⟨index, none⟩, true⟩
  let go (index : Nat) (word cs : Bytes) : Step :=
    match cs with
    | [] => finish index
    | c :: rest =>
      let place : Option Nat := some (word.length - rest.length)
      let failing (shown : Bytes) (what : String) (message : Bytes) (scan : Scan) : Step :=
        if quiet then ⟨what.toList, some shown, [], scan, false⟩
        else ⟨['?'], none, message, scan, false⟩
      match if c = ':' then none else letters.idxOf? c with
      | none =>
        failing [c] "?" ("Illegal option -".toList ++ [c, '\n']) ⟨index, place⟩
      | some k =>
        if letters[k + 1]? = some ':' then
          match rest, args[index - 1]? with
          | _ :: _, _ => ⟨[c], some rest, [], ⟨index, none⟩, false⟩
          | [], some value => ⟨[c], some value, [], ⟨index + 1, none⟩, false⟩
          | [], none =>
            failing [c] ":" ("No arg for -".toList ++ c :: " option\n".toList) ⟨index, place⟩
        else ⟨[c], some [], [], ⟨index, place⟩, false⟩
  match within with
  | _ :: _ => go scan.index ((args[scan.index - 2]?).getD []) within
  | [] =>
    match args[scan.index - 1]? with
    | some ['-', '-'] => finish (scan.index + 1)
    | some ('-' :: c :: cs) => go (scan.index + 1) ('-' :: c :: cs) (c :: cs)
    | _ => finish scan.index

/-- Goes on to the next option of the parameters, or of the arguments that are given. -/
def getopts : Builtin := fun line args => do
  match (← Flags.read "" "" line args).rest with
  | letters :: x :: given => do
    let p ← Run.process
    let words := if given.isEmpty then p.params else given
    let scan := if words.length + 1 < p.scan.index then ⟨1, none⟩ else p.scan
    let step := nextOption letters words scan
    if !step.message.isEmpty then Run.print 2 step.message
    let argument := "OPTARG".toList
    if !step.done then
      match step.value with
      | some v => Run.assign line argument v
      | none => Run.unassign argument
    Run.assign line "OPTIND".toList (decimal step.scan.index)
    checkName line x
    Run.assign line x step.option
    Run.update fun p => { p with scan := step.scan }
    Run.setStatus (if step.done then 1 else 0)
  | _ => Run.fail line "Usage: getopts optstring var [arg...]".toList

/-! ## Reading -/

/-- The next line of a text: its characters, of which quoted ones are marked, in reverse, how many
bytes were taken, and what is behind it, if the line ends there. Unless it is raw, a backslash
quotes the character behind it, and a line break behind one does not count. Zero bytes do not count
either. -/
def nextLine (raw : Bool) : Nat → Marked → Bytes → Marked × Nat × Option Bytes
  | n, done, [] => (done, n, none)
  | n, done, '\n' :: rest => (done, n + 1, some rest)
  | n, done, '\x00' :: rest => nextLine raw (n + 1) done rest
  | n, done, [c] => (if c = '\\' && !raw then done else (false, c) :: done, n + 1, none)
  | n, done, c :: d :: rest =>
    if c = '\\' && !raw then
      if d = '\n' then nextLine raw (n + 2) done rest
      else nextLine raw (n + 2) ((true, d) :: done) rest
    else nextLine raw (n + 1) ((false, c) :: done) (d :: rest)

/-- The words that variables take: the last one has all that is left. -/
def shares (separators : Bytes) : List Bytes → Marked → List (Bytes × Bytes)
  | [], _ => []
  | [name], cs => [(name, ((cs.reverse.dropWhile isBlank).reverse).map (·.2))]
  | name :: names, cs =>
    let word := cs.takeWhile fun c => c.1 || !separators.contains c.2
    let rest := (cs.drop word.length).dropWhile isBlank
    let rest := match rest with
      | (false, c) :: more => if separators.contains c then more.dropWhile isBlank else rest
      | rest => rest
    (name, word.map (·.2)) :: shares separators names rest
where
  /-- Is the character a blank between words? -/
  isBlank (c : Bool × Char) : Bool :=
    !c.1 && separators.contains c.2 && Expansion.usualSeparators.contains c.2

/-- Reads a line into variables; it fails at the end of the input. -/
def read : Builtin := fun line args => do
  let flags ← Flags.read "r" "p" line args
  if flags.rest.isEmpty then Run.fail line "arg count".toList
  match ← Run.input 0 with
  | .error _ => assignAll line flags.rest [] 1
  | .ok input => do
    let (reversed, taken, rest) := nextLine (flags.has 'r') 0 [] input.text
    Run.advance 0 input taken (rest.getD [])
    if rest.isNone && input.endless then throw .exhausted
    assignAll line flags.rest reversed.reverse (if rest.isNone then 1 else 0)
where
  /-- Splits a line between variables, and sets a status. -/
  assignAll (line : Nat) (names : List Bytes) (text : Marked) (status : Nat) : Run Unit := do
    let separators := Expansion.separators (← Run.process)
    for (name, value) in shares separators names (text.dropWhile (shares.isBlank separators)) do
      checkName line name
      Run.assign line name value
    Run.setStatus status

end ActionTree.Sh.Builtin
