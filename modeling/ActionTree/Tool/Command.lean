import ActionTree.Text.Blank
import ActionTree.Text.Utf8
import ActionTree.Tool.Basic

/-!
# The command tool

`bash_tool` hands a command to a shell, `sh -c`, and reports what it printed. With a list of allowed
commands, a command that contains a control character of the shell is denied, and so is one whose
first word is not on the list.

In the program: `BashTool` with `is_command_allowed` (`isAllowed`) and `execute` (`launch`, the run
of the shell, and `outcome`), and `default_registry` of the tools.

* `launch`: the command that is started, or why none is.
* `report`: the result of a finished command.
-/

namespace ActionTree

/-- How a shell command ended. -/
structure Finished where
  stdout : List UInt8
  stderr : List UInt8
  /-- The exit code; a command killed by a signal has none. -/
  code : Option Nat
  deriving DecidableEq

/-- What comes of starting a shell. -/
inductive ShellRun where
  | finished (f : Finished)
  | timedOut
  /-- The shell could not be started. -/
  | notStarted (reason : String)
  deriving DecidableEq

/-- A shell in a world with states `σ`. -/
structure ShellHost (σ : Type) where
  /-- Runs a command for at most a number of seconds. -/
  run : String → Nat → σ → ShellRun × σ
  /-- The world in which the line is cancelled while a command runs, if that happens. -/
  interrupt : String → σ → Option σ

/-- Which commands may run, and for how long. -/
structure CommandPolicy where
  /-- The first words that are allowed; an empty list allows everything. -/
  allowed : List String
  /-- The longest time a command may take, in seconds. -/
  timeout : Nat
  deriving DecidableEq

namespace CommandTool

open Text

/-- The name of the tool. -/
def name : String := "bash_tool"

/-- The characters that let a shell chain, substitute or redirect. -/
def controls : List Char := [';', '&', '|', '$', '\x60', '<', '>', '(', ')', '\n', '\r']

/-- Does a command contain a control character of the shell? -/
def hasControl (command : String) : Bool := command.toList.any (controls.contains ·)

/-- The first word of a command; a blank command has the empty one. -/
def firstWord (command : String) : String := String.ofList (splitWord command.toList).1

/-- What is said of a denied command. -/
def denial (command : String) : String :=
  if hasControl command then "Shell control characters are not allowed with an allowlist"
  else "Command '" ++ firstWord command ++ "' not in allowlist"

/-- Is a command allowed? -/
def isAllowed (policy : CommandPolicy) (command : String) : Bool :=
  policy.allowed.isEmpty
    || (!hasControl command && policy.allowed.contains (firstWord command))

/-- The command that is started for some arguments, or why none is. -/
def launch (policy : CommandPolicy) (args : Json) : Except ToolError String :=
  match (args.get? "command").bind (·.string?) with
  | none => .error (.invalidArguments "Missing 'command' argument")
  | some command =>
    if isAllowed policy command then .ok command else .error (.denied name (denial command))

/-- The text of a finished command: what it printed, and its exit code if that is not 0. -/
def reportText (f : Finished) : List Char :=
  let out := Utf8.decodeLossy f.stdout
  let err := Utf8.decodeLossy f.stderr
  if f.code = some 0 then
    if (trim err).isEmpty then out else out ++ "\n[stderr]: ".toList ++ err
  else
    let code := match f.code with
      | some n => toString n
      | none => "-1"
    "[exit code: ".toList ++ code.toList ++ "]\n".toList ++ out ++ '\n' :: err

/-- The result of a finished command. -/
def report (f : Finished) : ToolResult :=
  ⟨f.code = some 0, String.ofList (trim (reportText f)), none⟩

/-- The result of running a shell. -/
def outcome (policy : CommandPolicy) : ShellRun → Except ToolError ToolResult
  | .finished f => .ok (report f)
  | .timedOut => .error (.timeout name policy.timeout)
  | .notStarted reason => .error (.failed name reason)

/-- What the tool is called and takes. -/
def definition : ToolDefinition where
  name := name
  description :=
    "Execute a shell command and return its output. Non-zero exit status is reported as failure."
  parameters :=
    .obj [("properties", .obj [("command",
        .obj [("description", .str "The shell command to execute"), ("type", .str "string")])]),
      ("required", .arr [.str "command"]), ("type", .str "object")]

/-- The tool. -/
def tool {σ : Type} (policy : CommandPolicy) (host : ShellHost σ) : Tool σ where
  definition := definition
  execute args w :=
    match launch policy args with
    | .error e => (.error e, w)
    | .ok command =>
      let (run, w) := host.run command policy.timeout w
      (outcome policy run, w)
  interrupt args w :=
    match launch policy args with
    | .error _ => none
    | .ok command => host.interrupt command w

end CommandTool

/-- The built-in tools. -/
def Toolbox.builtin {σ : Type} (policy : CommandPolicy) (host : ShellHost σ) : Toolbox σ :=
  Toolbox.add [] (CommandTool.tool policy host)

end ActionTree
