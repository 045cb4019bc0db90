import ActionTree.Document.Decode
import ActionTree.Failure
import ActionTree.Space.Codec

/-!
# Tools

A tool takes a JSON object of parameters and returns a result. A `Tool σ` works in a world with
states `σ`; it may also be found running when the line is cancelled. A `Toolbox` is a table of tools
by name: a tool replaces an earlier one of its name.

In the program: `ToolResult`, `ToolDefinition`, `Tool` and `ToolRegistry` (`Toolbox`), with
`register` (`add`), `definitions` and `execute`.
-/

namespace ActionTree

/-- What a tool returns. -/
structure ToolResult where
  success : Bool
  output : String
  /-- Structured output, which takes the place of the text. -/
  data : Option Json

namespace ToolResult

/-- A result as JSON. -/
def toJson (r : ToolResult) : Json :=
  .obj (Json.optionalMember "data" r.data
    ++ [("output", .str r.output), ("success", .bool r.success)])

/-- The result that a JSON document gives. -/
def ofDocument? (d : Document) : Option ToolResult := do
  match ← d.record? .json ["success", "output", "data"] with
  | [success, output, data] =>
    return ⟨← success.required Document.bool?, ← output.required Document.string?,
      ← data.optional Document.json?⟩
  | _ => none

end ToolResult

/-- What a tool is called and which parameters it takes. -/
structure ToolDefinition where
  name : String
  description : String
  /-- A JSON schema of the parameters. -/
  parameters : Json

namespace ToolDefinition

/-- A definition as JSON. -/
def toJson (t : ToolDefinition) : Json :=
  .obj [("description", .str t.description), ("name", .str t.name), ("parameters", t.parameters)]

/-- The definition that a JSON document gives. -/
def ofDocument? (d : Document) : Option ToolDefinition := do
  match ← d.record? .json ["name", "description", "parameters"] with
  | [name, description, parameters] =>
    return ⟨← name.required Document.string?, ← description.required Document.string?,
      ← parameters.required Document.json?⟩
  | _ => none

end ToolDefinition

/-- A tool in a world with states `σ`. -/
structure Tool (σ : Type) where
  definition : ToolDefinition
  /-- The result for some parameters. -/
  execute : Json → σ → Except ToolError ToolResult × σ
  /-- The world in which the line is cancelled while the tool runs, if that happens. -/
  interrupt : Json → σ → Option σ

/-- Tools by name. -/
abbrev Toolbox (σ : Type) := Fields (Tool σ)

namespace Toolbox

variable {σ : Type}

/-- The tools with one more; it replaces a tool of its name. -/
def add (tools : Toolbox σ) (t : Tool σ) : Toolbox σ := Fields.put t.definition.name t tools

/-- The definitions, by name. -/
def definitions (tools : Toolbox σ) : List ToolDefinition := tools.values.map (·.definition)

/-- The result of the tool of a name. -/
def execute (tools : Toolbox σ) (name : String) (parameters : Json) (w : σ) :
    Except ToolError ToolResult × σ :=
  match tools.get? name with
  | some t => t.execute parameters w
  | none => (.error (.notFound name), w)

/-- The world in which the line is cancelled while the tool of a name runs, if that happens. -/
def interrupt (tools : Toolbox σ) (name : String) (parameters : Json) (w : σ) : Option σ :=
  (tools.get? name).bind (·.interrupt parameters w)

end Toolbox

end ActionTree
