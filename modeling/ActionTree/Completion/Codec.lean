import ActionTree.Agent.Codec
import ActionTree.Completion.Basic

/-!
# Completion requests and answers as JSON

In the program: the serialized forms of `CompletionRequest`, `Usage` and `CompletionResponse`.
-/

namespace ActionTree

/-- A number with 32 bits as JSON, widened to 64; infinity has no JSON form. -/
def Json.single (x : Binary32) : Json := if x.isFinite then .float x.widen else .null

/-- Counts of tokens are below this bound. -/
def tokenBound : Nat := UInt32.size

namespace CompletionRequest

/-- A request as JSON. -/
def toJson (r : CompletionRequest) : Json :=
  .obj (Json.optionalMember "max_tokens" (r.maxTokens.map .ofNat)
    ++ [("messages", .arr (r.messages.map (·.toJson))), ("model", .str r.model),
      ("temperature", .single r.temperature)])

/-- The request that a JSON document gives. -/
def ofDocument? (d : Document) : Option CompletionRequest := do
  match ← d.record? .json ["model", "messages", "temperature", "max_tokens"] with
  | [model, messages, temperature, maxTokens] =>
    return ⟨← model.required Document.string?,
      ← messages.required (Document.list? Message.ofDocument?),
      ← temperature.defaulting Document.single? defaultTemperature,
      ← maxTokens.optional (Document.natural? tokenBound)⟩
  | _ => none

end CompletionRequest

namespace Usage

/-- What a completion consumed, as JSON. -/
def toJson (u : Usage) : Json :=
  .obj [("completion_tokens", .ofNat u.completionTokens), ("prompt_tokens", .ofNat u.promptTokens),
    ("total_tokens", .ofNat u.totalTokens)]

/-- What a completion consumed, from a JSON document. -/
def ofDocument? (d : Document) : Option Usage := do
  match ← d.record? .json ["prompt_tokens", "completion_tokens", "total_tokens"] with
  | [prompt, completion, total] =>
    let count : Document → Option Nat := Document.natural? tokenBound
    return ⟨← prompt.required count, ← completion.required count, ← total.required count⟩
  | _ => none

end Usage

namespace Completion

/-- An answer as JSON; without a report of usage it is null. -/
def toJson (c : Completion) : Json :=
  .obj [("message", c.message.toJson), ("model", .str c.model),
    ("usage", (c.usage.map (·.toJson)).getD .null)]

/-- The answer that a JSON document gives. -/
def ofDocument? (d : Document) : Option Completion := do
  match ← d.record? .json ["message", "usage", "model"] with
  | [message, usage, model] =>
    return ⟨← message.required Message.ofDocument?, ← usage.optionalInTable Usage.ofDocument?,
      ← model.required Document.string?⟩
  | _ => none

end Completion

end ActionTree
