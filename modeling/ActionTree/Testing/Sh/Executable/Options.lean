import ActionTree.Testing.Sh.Executable.Basic

/-!
# Options of programs

The arguments of a program are options and operands. An option is a letter behind a hyphen, or a
name behind two, which may be cut short if it stays unique; some take a value.

* `Options.read`: options told apart from operands.
-/

namespace ActionTree.Sh

/-- Does an option take a value? -/
inductive ValueUse where
  | never
  | always
  /-- Only one that is part of the same argument. -/
  | attached
  deriving DecidableEq

/-- The options of a program. -/
structure OptionTable where
  /-- The letters; a colon is behind one that takes a value, and two if the value has to be part of
  the same argument. -/
  letters : String
  /-- The names, each with the letter that it stands for. -/
  names : List (String × ValueUse × Char)
  /-- May options stand behind operands? -/
  mixed : Bool

/-- The options of a call, each with its value if it has one, and the operands. -/
structure Options where
  given : List (Char × Option Bytes)
  operands : List Bytes

namespace Options

/-- Is the option given? -/
def has (o : Options) (c : Char) : Bool := o.given.any (·.1 = c)

/-- The value of an option; of several the last one counts. -/
def value? (o : Options) (c : Char) : Option Bytes :=
  (o.given.reverse.find? (·.1 = c)).bind (·.2)

/-- All values of an option. -/
def values (o : Options) (c : Char) : List Bytes :=
  (o.given.filter (·.1 = c)).filterMap (·.2)

/-- The last of the options of some letters. -/
def last? (o : Options) (letters : String) : Option Char :=
  (o.given.reverse.find? fun g => letters.toList.contains g.1).map (·.1)

/-- Why options cannot be read. -/
inductive Fault where
  | unknown (option : Char)
  | noValue (option : Char)
  | unknownName (arg : Bytes)
  | ambiguous (arg : Bytes) (names : List String)
  | noNamedValue (name : String)
  | valueGiven (name : String)
  deriving DecidableEq

/-- What is said of options that cannot be read. -/
def Fault.message : Fault → Bytes
  | .unknown c => "invalid option -- ".toList ++ singly [c]
  | .noValue c => "option requires an argument -- ".toList ++ singly [c]
  | .unknownName arg => "unrecognized option ".toList ++ singly arg
  | .ambiguous arg names =>
    "option ".toList ++ singly arg ++ " is ambiguous; possibilities:".toList
      ++ names.flatMap fun name => ' ' :: singly ("--" ++ name).toList
  | .noNamedValue name => ("option '--" ++ name ++ "' requires an argument").toList
  | .valueGiven name => ("option '--" ++ name ++ "' doesn't allow an argument").toList

/-- The options that each program has: they say something about it. -/
def common : List (String × ValueUse × Char) :=
  [("help", .never, '\x01'), ("version", .never, '\x02')]

/-- Whether a letter takes a value, if it is an option. -/
def kind? (letters : List Char) (c : Char) : Option ValueUse :=
  match letters.dropWhile (· ≠ c) with
  | _ :: ':' :: ':' :: _ => some .attached
  | _ :: ':' :: _ => some .always
  | _ :: _ => if c = ':' then none else some .never
  | [] => none

/-- The letters of one argument: one that takes a value takes all that follows, or the next
argument. -/
def ofLetters (letters : List Char) :
    Bytes → List Bytes → Except Fault (List (Char × Option Bytes) × List Bytes)
  | [], rest => .ok ([], rest)
  | c :: cs, rest =>
    match kind? letters c with
    | none => .error (.unknown c)
    | some .never => (ofLetters letters cs rest).map fun (more, out) => ((c, none) :: more, out)
    | some .attached => .ok ([(c, if cs.isEmpty then none else some cs)], rest)
    | some .always =>
      match cs, rest with
      | _ :: _, rest => .ok ([(c, some cs)], rest)
      | [], value :: rest => .ok ([(c, some value)], rest)
      | [], [] => .error (.noValue c)

/-- The option of a name, which may be cut short. -/
def ofName (names : List (String × ValueUse × Char)) (arg : Bytes) (rest : List Bytes) :
    Except Fault ((Char × Option Bytes) × List Bytes) :=
  let name := (arg.drop 2).takeWhile (· ≠ '=')
  let value : Option Bytes := match (arg.drop 2).dropWhile (· ≠ '=') with
    | _ :: v => some v
    | [] => none
  let found := match names.find? (·.1.toList = name) with
    | some n => [n]
    | none => names.filter fun n => name.isPrefixOf n.1.toList
  match found with
  | [] => .error (.unknownName arg)
  | (full, kind, c) :: others =>
    if others.any fun n => n.2 ≠ (kind, c) then
      .error (.ambiguous arg (found.map (·.1)))
    else match kind, value, rest with
      | .never, none, rest => .ok ((c, none), rest)
      | .never, some _, _ => .error (.valueGiven full)
      | .attached, v, rest => .ok ((c, v), rest)
      | .always, some v, rest => .ok ((c, some v), rest)
      | .always, none, v :: rest => .ok ((c, some v), rest)
      | .always, none, [] => .error (.noNamedValue full)

/-- Options told apart from operands in so many arguments. -/
def readIn (t : OptionTable) : Nat → List Bytes → Except Fault Options
  | 0, args => .ok ⟨[], args⟩
  | n + 1, args =>
    match args with
    | [] => .ok ⟨[], []⟩
    | ['-', '-'] :: rest => .ok ⟨[], rest⟩
    | arg :: rest =>
      match arg with
      | '-' :: '-' :: _ => do
        let (given, rest) ← ofName (t.names ++ common) arg rest
        let more ← readIn t n rest
        return { more with given := given :: more.given }
      | '-' :: c :: cs => do
        let (given, rest) ← ofLetters t.letters.toList (c :: cs) rest
        let more ← readIn t n rest
        return { more with given := given ++ more.given }
      | _ =>
        if t.mixed then
          (readIn t n rest).map fun more => { more with operands := arg :: more.operands }
        else .ok ⟨[], args⟩

/-- The options of a call, or a message and the end of the program. -/
def read (t : OptionTable) (args : List Bytes) : Act Options := do
  match readIn t (args.length + 1) args with
  | .ok o => if o.has '\x01' || o.has '\x02' then Act.finish 0 else return o
  | .error e => Act.misuse e.message

end Options

/-- A program whose options are read first. -/
def withOptions (letters : String) (names : List (String × ValueUse × Char))
    (f : Options → Act Unit) : Executable :=
  fun args => do f (← Options.read ⟨letters, names, true⟩ args)

end ActionTree.Sh
