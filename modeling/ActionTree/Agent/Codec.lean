import ActionTree.Agent.Basic
import ActionTree.Instant.Reader
import ActionTree.Space.Codec

/-!
# Messages and agents as JSON

Members are listed by key; an absent system prompt is left out.

In the program: the serialized forms of `Role`, `Message`, `AgentHandle` and `AgentRegistry`.
-/

namespace ActionTree

namespace Instant

/-- An instant as JSON: its text. -/
def toJson (t : Instant) : Json := .str t.text

/-- The instant that a document gives. -/
def ofDocument? (d : Document) : Option Instant := d.string?.bind parse?

end Instant

namespace Role

/-- A role as JSON: its name. -/
def toJson (r : Role) : Json := .str r.name

/-- The role that a JSON document gives. -/
def ofDocument? (d : Document) : Option Role := (d.choice? .json).bind ofName?

end Role

namespace Message

/-- A message as JSON. -/
def toJson (m : Message) : Json :=
  .obj [("content", .str m.content), ("id", .str m.id), ("role", m.role.toJson),
    ("timestamp", m.sentAt.toJson)]

/-- The message that a JSON document gives. -/
def ofDocument? (d : Document) : Option Message := do
  match ← d.record? .json ["id", "role", "content", "timestamp"] with
  | [id, role, content, sentAt] =>
    return ⟨← id.required Document.string?, ← role.required Role.ofDocument?,
      ← content.required Document.string?, ← sentAt.required Instant.ofDocument?⟩
  | _ => none

end Message

namespace Agent

/-- An agent as JSON. -/
def toJson (a : Agent) : Json :=
  .obj ([("created_at", a.createdAt.toJson), ("history", .arr (a.history.map (·.toJson))),
    ("last_used", a.lastUsed.toJson), ("model", .str a.model), ("name", .str a.name)]
    ++ Json.optionalMember "system_prompt" (a.systemPrompt.map .str))

/-- The agent that a JSON document gives. -/
def ofDocument? (d : Document) : Option Agent := do
  match ← d.record? .json
      ["name", "model", "system_prompt", "history", "created_at", "last_used"] with
  | [name, model, systemPrompt, history, createdAt, lastUsed] =>
    return ⟨← name.required Document.string?, ← model.required Document.string?,
      ← systemPrompt.optional Document.string?,
      ← history.defaulting (Document.list? Message.ofDocument?) [],
      ← createdAt.required Instant.ofDocument?, ← lastUsed.required Instant.ofDocument?⟩
  | _ => none

end Agent

namespace Agents

/-- The agents of a session as JSON. -/
def toJson (agents : Agents) : Json :=
  .obj [("agents", .obj (agents.map fun a => (a.1, a.2.toJson)))]

/-- The agents that a JSON document gives. -/
def ofDocument? (d : Document) : Option Agents := do
  match ← d.record? .json ["agents"] with
  | [agents] => agents.required (Document.tableOf? Agent.ofDocument?)
  | _ => none

end Agents

end ActionTree
