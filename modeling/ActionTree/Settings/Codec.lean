import ActionTree.Completion.Codec
import ActionTree.Settings.Basic

/-!
# Settings as documents

Every part of the settings may be left out of a document; the default stands in for it. A catalog
entry needs an address and a label.

In the program: the serialized forms of `AppConfig` and its parts, with their defaults.
-/

namespace ActionTree

/-- The options that a document gives. -/
def EngineOptions.ofDocument? (markup : Markup) (d : Document) : Option EngineOptions := do
  match ← d.record? markup ["continue_on_error"] with
  | [continueOnError] => return ⟨← continueOnError.defaulting Document.bool? false⟩
  | _ => none

/-- Options as JSON. -/
def EngineOptions.toJson (o : EngineOptions) : Json :=
  .obj [("continue_on_error", .bool o.continueOnError)]

/-- The policy that a document gives. -/
def CommandPolicy.ofDocument? (markup : Markup) (d : Document) : Option CommandPolicy := do
  match ← d.record? markup ["allowed_commands", "timeout_secs"] with
  | [allowed, timeout] =>
    return ⟨← allowed.defaulting (Document.list? Document.string?) [],
      ← timeout.defaulting (Document.natural? UInt64.size) defaultTimeout⟩
  | _ => none

/-- A policy as JSON. -/
def CommandPolicy.toJson (p : CommandPolicy) : Json :=
  .obj [("allowed_commands", .strings p.allowed), ("timeout_secs", .ofNat p.timeout)]

namespace ProviderSettings

/-- The provider that a document gives. -/
def ofDocument? (markup : Markup) (d : Document) : Option ProviderSettings := do
  match ← d.record? markup ["name", "api_url", "api_key", "model", "temperature", "max_tokens"] with
  | [name, apiUrl, apiKey, model, temperature, maxTokens] =>
    return ⟨← name.defaulting Document.string? default.name,
      ← apiUrl.defaulting Document.string? default.apiUrl, ← apiKey.optional Document.string?,
      ← model.defaulting Document.string? default.model,
      ← temperature.defaulting Document.single? default.temperature,
      ← maxTokens.optional (Document.natural? tokenBound)⟩
  | _ => none

/-- A provider as JSON. -/
def toJson (p : ProviderSettings) : Json :=
  .obj (Json.optionalMember "api_key" (p.apiKey.map .str) ++ [("api_url", .str p.apiUrl)]
    ++ Json.optionalMember "max_tokens" (p.maxTokens.map .ofNat)
    ++ [("model", .str p.model), ("name", .str p.name), ("temperature", .single p.temperature)])

end ProviderSettings

namespace TreeSettings

/-- The tree that a document gives. -/
def ofDocument? (markup : Markup) (d : Document) : Option TreeSettings := do
  match ← d.record? markup ["app_id", "nodes"] with
  | [appId, nodes] =>
    return ⟨← appId.defaulting Document.string? default.appId,
      ← nodes.defaulting (Document.list? (CatalogEntry.ofDocument? markup)) []⟩
  | _ => none

/-- A tree as JSON; an empty catalog is left out. -/
def toJson (t : TreeSettings) : Json :=
  .obj (("app_id", .str t.appId)
    :: (if t.nodes.isEmpty then [] else [("nodes", .arr (t.nodes.map (·.toJson)))]))

end TreeSettings

namespace Settings

/-- The settings that a document gives. -/
def ofDocument? (markup : Markup) (d : Document) : Option Settings := do
  match ← d.record? markup ["engine", "shell", "provider", "tree"] with
  | [engine, commands, provider, tree] =>
    return ⟨← engine.defaulting (EngineOptions.ofDocument? markup) .default,
      ← commands.defaulting (CommandPolicy.ofDocument? markup) .default,
      ← provider.defaulting (ProviderSettings.ofDocument? markup) .default,
      ← tree.defaulting (TreeSettings.ofDocument? markup) .default⟩
  | _ => none

/-- Settings as JSON. -/
def toJson (s : Settings) : Json :=
  .obj [("engine", s.engine.toJson), ("provider", s.provider.toJson),
    ("shell", s.commands.toJson), ("tree", s.tree.toJson)]

end Settings

end ActionTree
