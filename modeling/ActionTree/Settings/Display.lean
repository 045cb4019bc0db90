import ActionTree.Settings.Basic
import ActionTree.Text.Quoted
import ActionTree.Toml.Printer

/-!
# Settings as they are shown

In the program: `redacted_toml` (`Settings.shown`), `default_toml` (`toToml` of the default
settings), `redact` (`redacted`), and the debug texts of `AppConfig` and `ProviderConfig` (the
summaries).

* `Settings.shown`: the settings as TOML, with the key masked.
* `Settings.summary`, `ProviderSettings.summary`: settings on one line, with the key masked.
-/

namespace ActionTree

/-- What a key is shown as. -/
def keyMask : String := "[REDACTED]"

namespace Settings

/-- The settings with the key masked. -/
def redacted (s : Settings) : Settings :=
  { s with provider := { s.provider with apiKey := s.provider.apiKey.map fun _ => keyMask } }

/-- A member that is written only if there is a value. -/
def optionalLine (key : String) : Option Toml.Scalar → List (String × Toml.Scalar)
  | some v => [(key, v)]
  | none => []

/-- The engine options as a table. -/
def engineSection (o : EngineOptions) : Toml.Section :=
  .mk [("continue_on_error", .bool o.continueOnError)] [] []

/-- The policy of commands as a table. -/
def commandsSection (p : CommandPolicy) : Toml.Section :=
  .mk [("allowed_commands", .strs p.allowed), ("timeout_secs", .int p.timeout)] [] []

/-- The provider as a table. -/
def providerSection (p : ProviderSettings) : Toml.Section :=
  .mk ([("name", .str p.name), ("api_url", .str p.apiUrl)]
    ++ optionalLine "api_key" (p.apiKey.map .str)
    ++ [("model", .str p.model), ("temperature", .float p.temperature.widen)]
    ++ optionalLine "max_tokens" (p.maxTokens.map .int)) [] []

/-- A catalog entry as a table, with its arguments in a sub-table. -/
def entrySection (c : CatalogEntry) : Toml.Section :=
  .mk ([("address", .str c.address), ("label", .str c.label)]
    ++ optionalLine "description" (c.description.map .str)
    ++ optionalLine "handler" (c.handler.map .str))
    (if c.args.isEmpty then []
      else [("args", .mk (c.args.map fun a => (a.1, .str a.2.name)) [] [])]) []

/-- The tree as a table. -/
def treeSection (t : TreeSettings) : Toml.Section :=
  .mk [("app_id", .str t.appId)] []
    (if t.nodes.isEmpty then [] else [("nodes", t.nodes.map entrySection)])

/-- All settings as a table. -/
def toSection (s : Settings) : Toml.Section :=
  .mk [] [("engine", engineSection s.engine), ("shell", commandsSection s.commands),
    ("provider", providerSection s.provider), ("tree", treeSection s.tree)] []

/-- Settings as TOML. -/
def toToml (s : Settings) : String := Toml.write s.toSection

/-- The settings as they are shown: as TOML with the key masked. -/
def shown (s : Settings) : String := s.redacted.toToml

end Settings

namespace ProviderSettings

/-- Temperatures are written without an exponent from `10^-4` on. -/
def temperatureLayout : Layout := ⟨-4, 15, false⟩

/-- The text of a temperature. -/
def temperatureText (t : Binary32) : String :=
  if t.isFinite then String.ofList (temperatureLayout.text t)
  else if t.isUndefined then "NaN"
  else if t.negative then "-inf" else "inf"

/-- A provider on one line; instead of the key it says whether there is one. -/
def summary (p : ProviderSettings) : String :=
  Text.recordLine "ProviderConfig"
    [("name", Text.quoted p.name), ("api_url", Text.quoted p.apiUrl),
      ("api_key", Text.quoted (if p.apiKey.isSome then keyMask else "None")),
      ("model", Text.quoted p.model), ("temperature", temperatureText p.temperature),
      ("max_tokens", Text.optionLine (p.maxTokens.map fun n => toString n))]

end ProviderSettings

/-- Options on one line. -/
def EngineOptions.summary (o : EngineOptions) : String :=
  Text.recordLine "EngineOptions" [("continue_on_error", toString o.continueOnError)]

/-- A policy on one line. -/
def CommandPolicy.summary (p : CommandPolicy) : String :=
  Text.recordLine "ShellConfig"
    [("allowed_commands", Text.listLine (p.allowed.map Text.quoted)),
      ("timeout_secs", toString p.timeout)]

/-- A type of arguments in a summary: its name with a capital letter. -/
def ArgType.summary (t : ArgType) : String := t.name.capitalize

/-- A catalog entry on one line. -/
def CatalogEntry.summary (c : CatalogEntry) : String :=
  Text.recordLine "NodeConfig"
    [("address", Text.quoted c.address), ("label", Text.quoted c.label),
      ("description", Text.optionLine (c.description.map Text.quoted)),
      ("handler", Text.optionLine (c.handler.map Text.quoted)),
      ("args", Text.tableLine (c.args.map fun a => (a.1, a.2.summary)))]

/-- The tree on one line. -/
def TreeSettings.summary (t : TreeSettings) : String :=
  Text.recordLine "TreeConfig"
    [("app_id", Text.quoted t.appId), ("nodes", Text.listLine (t.nodes.map (·.summary)))]

/-- All settings on one line, without the key. -/
def Settings.summary (s : Settings) : String :=
  Text.recordLine "AppConfig"
    [("engine", s.engine.summary), ("shell", s.commands.summary), ("provider", s.provider.summary),
      ("tree", s.tree.summary)]

end ActionTree
