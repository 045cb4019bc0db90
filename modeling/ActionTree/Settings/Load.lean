import ActionTree.Settings.Codec
import ActionTree.Toml.Reader

/-!
# Loading settings

Settings come from a TOML text at a path; without one the default settings are used.

In the program: `load_from` (`load`) and `load_with_env` (`loadIn`).

* `Settings.ofToml`: the settings of a text, checked.
* `Settings.loadIn`: the settings in an environment, checked again.
-/

namespace ActionTree.Settings

/-- What is said of a text that gives no settings. -/
def malformedText : String := "malformed TOML text"

/-- The settings of a text at a path, checked. -/
def ofToml (path text : String) : Except SettingsError Settings :=
  match (Document.ofToml? text.toList).bind (ofDocument? .toml) with
  | none => .error (.malformed path malformedText)
  | some s => (s.validate).map fun _ => s

/-- What is found at a path. -/
inductive Source where
  | absent
  | unreadable (reason : String)
  | text (content : String)
  deriving DecidableEq

/-- The settings of what is found at a path: the default ones if nothing is there. -/
def load (path : String) : Source → Except SettingsError Settings
  | .absent => .ok .default
  | .unreadable reason => .error (.unreadable path reason)
  | .text content => ofToml path content

/-- The settings of what is found at a path, in an environment. -/
def loadIn (lookup : String → Option String) (path : String) (source : Source) :
    Except SettingsError Settings := do
  let s := (← load path source).override (.ofEnvironment lookup)
  s.validate
  return s

end ActionTree.Settings
