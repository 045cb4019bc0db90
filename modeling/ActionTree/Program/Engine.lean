import ActionTree.Completion.Service
import ActionTree.Engine.Shell
import ActionTree.Handler.Builtin
import ActionTree.Settings.Basic

/-!
# Engines from settings

Settings determine an engine: its tree, the built-in handlers and tools, and a provider if there is
a key. What lies outside of the program, a shell and a transport for HTTP, is given.

In the program: `build_shell` (`makeEngine`), with `build_from_config` (`completer?`) and the two
functions `default_registry`.

* `Settings.engine`: the engine of settings, unless their catalog makes no tree.
-/

namespace ActionTree

/-- What lies outside of the program, in a world with states `σ`. -/
structure Surroundings (σ : Type) where
  shell : ShellHost σ
  http : HttpHost σ

/-- The service that settings name; without a key there is none. -/
def ProviderSettings.service? (p : ProviderSettings) : Option CompletionService :=
  p.apiKey.map fun key => ⟨p.name, p.apiUrl, key⟩

/-- What completions are made with. -/
def ProviderSettings.completion (p : ProviderSettings) : CompletionSettings :=
  ⟨p.model, p.temperature, p.maxTokens⟩

namespace Settings

variable {σ : Type}

/-- The provider that settings name; without a key there is none. -/
def completer? (s : Settings) (around : Surroundings σ) : Option (Provider σ) :=
  s.provider.service?.map fun service => service.provider around.http

/-- The built-in handlers under settings. -/
def handlers (s : Settings) (around : Surroundings σ) : Registry σ :=
  Registry.builtin (Toolbox.builtin s.commands around.shell) (s.completer? around)
    s.provider.completion

/-- The engine of settings over a tree. -/
def engineOver (s : Settings) (around : Surroundings σ) (space : Space) : Engine σ :=
  ⟨space, s.handlers around, s.engine⟩

/-- The engine of settings. -/
def makeEngine (s : Settings) (around : Surroundings σ) : Except SettingsError (Engine σ) :=
  match s.tree.space with
  | .ok space => .ok (s.engineOver around space)
  | .error e => .error (.catalog e)

end Settings

end ActionTree
