import ActionTree.Completion.Basic
import ActionTree.Engine.Basic
import ActionTree.Settings.Catalog
import ActionTree.Tool.Command

/-!
# Settings

The settings of the program: the engine's options, the policy of the command tool, the completion
provider and the catalog. Some variables of the environment override them.

In the program: `AppConfig` (`Settings`), `ShellConfig` (`CommandPolicy`), `ProviderConfig`
(`ProviderSettings`), `TreeConfig` (`TreeSettings`), `ConfigError` (`SettingsError`), with
`validate`, `build_space` (`TreeSettings.space`), `effective_nodes` (`TreeSettings.catalog`), and
`apply_overrides` (`override`).

* `Settings.validate`: temperature and time limit in range, and a catalog that makes a tree.
* `Settings.override`: the settings in an environment.
-/

namespace ActionTree

/-- The completion provider. -/
structure ProviderSettings where
  name : String
  apiUrl : String
  apiKey : Option String
  model : String
  temperature : Binary32
  maxTokens : Option Nat
  deriving DecidableEq

/-- The catalog and the name of what it drives. -/
structure TreeSettings where
  appId : String
  /-- The catalog; an empty one stands for the built-in one. -/
  nodes : List CatalogEntry
  deriving DecidableEq

/-- All settings. -/
structure Settings where
  engine : EngineOptions
  commands : CommandPolicy
  provider : ProviderSettings
  tree : TreeSettings
  deriving DecidableEq

/-- Why settings cannot be used. -/
inductive SettingsError where
  | unreadable (path reason : String)
  | malformed (path reason : String)
  | invalid (reason : String)
  | catalog (e : AddressError)
  deriving DecidableEq

/-- What a settings error says. -/
def SettingsError.message : SettingsError → String
  | .unreadable path reason => "Failed to read config file at " ++ path ++ ": " ++ reason
  | .malformed path reason => "Failed to parse config file at " ++ path ++ ": " ++ reason
  | .invalid reason => "Configuration validation failed: " ++ reason
  | .catalog e => "Invalid node catalog: " ++ e.message

/-! ## Defaults -/

/-- The default engine options. -/
def EngineOptions.default : EngineOptions := ⟨false⟩

/-- The longest time that commands may take by default, in seconds. -/
def defaultTimeout : Nat := 30

/-- The default policy: every command may run. -/
def CommandPolicy.default : CommandPolicy := ⟨[], defaultTimeout⟩

/-- The default provider. -/
def ProviderSettings.default : ProviderSettings :=
  ⟨"openai", "https://api.openai.com/v1", none, "gpt-4o-mini", defaultTemperature, none⟩

/-- The default tree. -/
def TreeSettings.default : TreeSettings := ⟨"treeshell", []⟩

/-- The default settings. -/
def Settings.default : Settings := ⟨.default, .default, .default, .default⟩

namespace TreeSettings

/-- The catalog that is used. -/
def catalog (t : TreeSettings) : List CatalogEntry := Catalog.effective t.nodes

/-- The tree of the catalog that is used. -/
def space (t : TreeSettings) : Except AddressError Space := Catalog.build t.catalog

end TreeSettings

namespace Settings

/-! ## Checks -/

/-- The settings, if they can be used. -/
def validate (s : Settings) : Except SettingsError Unit :=
  if !s.provider.temperature.between0And 2 then
    .error (.invalid "provider.temperature must be between 0.0 and 2.0")
  else if s.commands.timeout = 0 then .error (.invalid "shell.timeout_secs must be > 0")
  else match s.tree.space with
    | .ok _ => .ok ()
    | .error e => .error (.catalog e)

/-! ## Environment -/

/-- The truth value of a flag: a few words for either, trimmed and in any ASCII case. -/
def flag? (text : String) : Option Bool :=
  match String.ofList (Text.lower (Text.trim text.toList)) with
  | "1" | "true" | "yes" | "on" => some true
  | "0" | "false" | "no" | "off" => some false
  | _ => none

/-- The variables that override settings. -/
structure Overrides where
  apiKey : Option String
  model : Option String
  apiUrl : Option String
  continueOnError : Option Bool
  deriving DecidableEq

/-- The overrides of an environment. There are two variables for the key. -/
def Overrides.ofEnvironment (lookup : String → Option String) : Overrides where
  apiKey := (lookup "TREESHELL_API_KEY").or (lookup "OPENAI_API_KEY")
  model := lookup "TREESHELL_MODEL"
  apiUrl := lookup "TREESHELL_API_URL"
  continueOnError := (lookup "TREESHELL_CONTINUE_ON_ERROR").bind flag?

/-- The settings with overrides. A key of their own stays. -/
def override (s : Settings) (o : Overrides) : Settings where
  engine := ⟨o.continueOnError.getD s.engine.continueOnError⟩
  commands := s.commands
  provider :=
    { s.provider with
      apiKey := s.provider.apiKey.or o.apiKey
      model := o.model.getD s.provider.model
      apiUrl := o.apiUrl.getD s.provider.apiUrl }
  tree := s.tree

/-- Is there a key? -/
def hasApiKey (s : Settings) : Bool := s.provider.apiKey.isSome

end Settings

end ActionTree
