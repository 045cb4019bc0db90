import ActionTree.Handler.Agents
import ActionTree.Handler.Tools
import ActionTree.Handler.Variables

/-!
# The built-in handlers

In the program: `default_registry` of the handlers.
-/

namespace ActionTree.Registry

variable {σ : Type}

/-- All built-in handlers: twelve of them. -/
def builtinHandlers (tools : Toolbox σ) (provider : Option (Provider σ))
    (settings : CompletionSettings) : List (Handler σ) :=
  [ToolCalls.handler tools, ToolCalls.listHandler tools, Completing.handler provider settings,
    Completing.listHandler, Completing.dismissHandler] ++ SessionOp.all.map (·.handler)

/-- The registry of the built-in handlers. -/
def builtin (tools : Toolbox σ) (provider : Option (Provider σ)) (settings : CompletionSettings) :
    Registry σ :=
  ofHandlers (builtinHandlers tools provider settings)

end ActionTree.Registry
