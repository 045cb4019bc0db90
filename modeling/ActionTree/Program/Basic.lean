import ActionTree.Program.Arguments
import ActionTree.Program.Conversation
import ActionTree.Program.Engine
import ActionTree.Program.Listing
import ActionTree.Settings.Load

/-!
# The program

The program loads the settings, from the path that it is given or from the user's directory, and
carries out a task. What it prints and its exit code depend on nothing else than its arguments, the
environment, what is found at the path, and the world around it, which owns the input: commands read
from the same input as the program does.

In the program: `main` (`carryOut`), `load_config` (`Place.settings`), and the commands `tree`,
`config`, `run` and `repl` (`report`).

* `Program.report`: what a task prints under settings, and whether it succeeds.
* `Program.carryOut`: the exit code and the output of the program.
-/

namespace ActionTree.Program

/-- The file of settings in the user's directory. -/
def settingsFile : String := ".treeshell/config.toml"

/-- A path below a directory. -/
def below (directory path : String) : String :=
  if directory.isEmpty then path
  else if directory.toList.getLast? = some '/' then directory ++ path
  else directory ++ "/" ++ path

/-- The path of the settings if none is given. -/
def defaultPath (lookup : String → Option String) : String :=
  below ((lookup "HOME").getD "/tmp") settingsFile

/-- The variable that names the path of the settings. -/
def pathVariable : String := "TREESHELL_CONFIG"

/-- All variables of the environment that the program looks at. -/
def environmentNames : List String :=
  ["HOME", pathVariable, "TREESHELL_API_KEY", "OPENAI_API_KEY", "TREESHELL_MODEL",
    "TREESHELL_API_URL", "TREESHELL_CONTINUE_ON_ERROR"]

/-- The name and the version of the program. -/
def versionText : String := "treeshell 0.1.0\n"

/-- How the program is used. -/
def helpText : String :=
  "Usage: treeshell [--config FILE] [--verbose] repl | run LINE... | tree | config [--defaults]\n"

/-- What a task printed, and whether it succeeded. -/
structure Report where
  text : String
  ok : Bool
  deriving DecidableEq

/-- Who runs the program, and when. -/
structure Occasion where
  /-- The id of the session. -/
  session : String
  /-- The moment of each line. -/
  moments : Nat → Moment
  /-- How many typed lines are looked at. -/
  limit : Nat

/-- What a task prints under settings that come from a path, and whether it succeeds. A task that
has not ended with the lines that are looked at has no report. -/
def report {σ : Type} (around : Surroundings (σ × Feed)) (w : σ × Feed) (occasion : Occasion)
    (path : String) (s : Settings) : Task → Except SettingsError (Option Report)
  | .settings true => .ok (some ⟨Settings.default.toToml, true⟩)
  | .settings false => .ok (some ⟨s.listing path, true⟩)
  | .tree =>
    match s.tree.space with
    | .ok space => .ok (some ⟨space.listing s.tree.appId, true⟩)
    | .error e => .error (.catalog e)
  | .batch lines =>
    (s.makeEngine around).map fun e =>
      let b := e.batch occasion.moments occasion.session lines w
      some ⟨b.text, b.ok⟩
  | .interactive =>
    (s.makeEngine around).map fun e =>
      (e.interactive s.tree.appId occasion.moments occasion.limit occasion.session w).map
        (⟨·, true⟩)

/-- What the program is run in: the environment, and what is found at a path. -/
structure Place where
  lookup : String → Option String
  source : String → Settings.Source

namespace Place

/-- The path of the settings: the given one, or the default one. -/
def path (p : Place) (given : Option String) : String := given.getD (defaultPath p.lookup)

/-- The settings in a place. -/
def settings (p : Place) (given : Option String) : Except SettingsError Settings :=
  Settings.loadIn p.lookup (p.path given) (p.source (p.path given))

end Place

/-- A task in a place. -/
def perform {σ : Type} (around : Surroundings (σ × Feed)) (w : σ × Feed) (occasion : Occasion)
    (place : Place) (given : Option String) (t : Task) : Except SettingsError (Option Report) := do
  report around w occasion (place.path given) (← place.settings given) t

/-- The exit code and the output of the program. -/
structure Exit where
  code : Nat
  text : String
  deriving DecidableEq

/-- The exit of a task: 1 if the settings cannot be used or the task does not succeed. -/
def Exit.ofReport : Except SettingsError (Option Report) → Option Exit
  | .ok r => r.map fun o => ⟨if o.ok then 0 else 1, o.text⟩
  | .error _ => some ⟨1, ""⟩

/-- The exit of the program, if it ends: 2 if its arguments make no sense. -/
def carryOut {σ : Type} (around : Surroundings (σ × Feed)) (w : σ × Feed) (occasion : Occasion)
    (place : Place) (args : List String) : Option Exit :=
  match Request.ofArguments (place.lookup pathVariable) args with
  | .version => some ⟨0, versionText⟩
  | .help => some ⟨0, helpText⟩
  | .misuse => some ⟨2, ""⟩
  | .task t given => Exit.ofReport (perform around w occasion place given t)

end ActionTree.Program
