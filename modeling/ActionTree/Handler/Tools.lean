import ActionTree.Handler.Arguments
import ActionTree.Handler.Basic
import ActionTree.Tool.Basic

/-!
# Calling tools

`tool_call` runs a tool by name with an object of parameters; `list_tools` lists the tools. A result
that reports failure is an error of the step, with the text of the result as its reason.

In the program: `ToolCallHandler` and `ListToolsHandler`.
-/

namespace ActionTree.ToolCalls

open Arguments

variable {σ : Type}

/-- The parameters of a call: an object, empty if there is none. -/
def parameters (args : Json) : Except ExecutionError Json :=
  match args.get? "parameters" with
  | none | some .null => .ok (.obj [])
  | some (.obj members) => .ok (.obj members)
  | some _ => .error (.invalidArguments "'parameters' must be an object")

/-- The tool and the parameters of a call. -/
def plan (args : Json) : Except ExecutionError (String × Json) := do
  let name ← requiredString args ["tool_name"]
  return (name, ← parameters args)

/-- What a step answers for the result of a tool. -/
def answer (name : String) : Except ToolError ToolResult → Except ExecutionError Json
  | .error e => .error (.tool e)
  | .ok r => if r.success then .ok (r.data.getD (.str r.output)) else .error (.failed name r.output)

/-- The handler that runs a tool. -/
def handler (tools : Toolbox σ) : Handler σ where
  id := "tool_call"
  description := "Run a registered tool with the given parameters"
  invoke args c w :=
    match plan args with
    | .error e => ⟨.error e, c.work, w⟩
    | .ok (name, ps) =>
      let (result, w) := tools.execute name ps w
      ⟨answer name result, c.work, w⟩
  interrupt args c w :=
    match plan args with
    | .error _ => none
    | .ok (name, ps) => (tools.interrupt name ps w).map (c.work, ·)

/-- The handler that lists the tools. -/
def listHandler (tools : Toolbox σ) : Handler σ :=
  .ofAction "list_tools" "List registered tools" fun _ c =>
    .ok (.obj [("count", .ofNat tools.definitions.length),
      ("tools", .arr (tools.definitions.map (·.toJson)))], c.work)

end ActionTree.ToolCalls
