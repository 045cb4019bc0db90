import ActionTree.Agent.Codec
import ActionTree.Handler.Arguments
import ActionTree.Handler.Basic

/-!
# Completions and agents

`model_completion` sends a message to the provider. With the name of an agent the conversation is
kept: the agent is looked up or made, its history goes in front of the message, and message and
reply are added to it once the reply is there. Two more handlers list and dismiss agents.

In the program: `CompletionSettings`, `CompletionHandler` (`Completing.handler`),
`ListAgentsHandler` and `EvictAgentHandler`.

* `Exchange`: what a call is going to ask, fixed before the provider is asked.
* `Exchange.commit`: the workspace after the reply.
-/

namespace ActionTree

/-- What completions are made with. -/
structure CompletionSettings where
  model : String
  temperature : Binary32
  maxTokens : Option Nat
  deriving DecidableEq

/-- What a completion call is going to ask. -/
structure Exchange where
  /-- The agent that asks, if one was named. -/
  agent : Option Agent
  /-- The system prompt of the request. -/
  systemPrompt : Option String
  model : String
  /-- The new message. -/
  question : Message
  deriving DecidableEq

namespace Exchange

/-- The request that is sent: the system prompt, the history and the new message. -/
def request (settings : CompletionSettings) (c : Call) (x : Exchange) : CompletionRequest :=
  let history := (x.agent.map (·.history)).getD []
  let prompt := (x.systemPrompt.map fun p => c.questionStamp.message .system p).toList
  ⟨x.model, prompt ++ history ++ [x.question], settings.temperature, settings.maxTokens⟩

/-- The workspace after the reply: the agent has heard question and reply. -/
def commit (c : Call) (x : Exchange) (reply : Message) : Workspace :=
  match x.agent with
  | some a =>
    let now := c.moment.time
    { c.work with agents := c.work.agents.enlist ((a.hear x.question now).hear reply now) }
  | none => c.work

end Exchange

namespace Completing

open Arguments

variable {σ : Type}

/-- What a call asks: for an agent that exists already its own system prompt and model count. -/
def exchange (settings : CompletionSettings) (args : Json) (c : Call) :
    Except ExecutionError Exchange := do
  let text ← match textArg? args ["message", "prompt"] with
    | some text => pure text
    | none => throw (.invalidArguments "'message' or 'prompt' is required")
  let prompt := stringArg? args ["system_prompt"]
  let question := c.questionStamp.message .user text
  match stringArg? args ["agent", "title"] with
  | none => return ⟨none, prompt, settings.model, question⟩
  | some name =>
    let agent := (c.work.agents.get? name).getD (.new name settings.model prompt c.moment.time)
    return ⟨some agent, agent.systemPrompt, agent.model, question⟩

/-- The error that no provider is there. -/
def noProvider : ExecutionError := .provider (.notConfigured "no API key for model completion")

/-- The provider and what it is asked; arguments are checked first. -/
def plan (provider : Option (Provider σ)) (settings : CompletionSettings) (args : Json) (c : Call) :
    Except ExecutionError (Provider σ × Exchange) := do
  let x ← exchange settings args c
  match provider with
  | some p => return (p, x)
  | none => throw noProvider

/-- The handler that asks the provider. -/
def handler (provider : Option (Provider σ)) (settings : CompletionSettings) : Handler σ where
  id := "model_completion"
  description := "Send a message to the model, optionally as a named agent with memory"
  invoke args c w :=
    match plan provider settings args c with
    | .error e => ⟨.error e, c.work, w⟩
    | .ok (p, x) =>
      match p.complete (x.request settings c) c.replyStamp w with
      | (.ok reply, w) => ⟨.ok (.str reply.message.content), x.commit c reply.message, w⟩
      | (.error e, w) => ⟨.error (.provider e), c.work, w⟩
  interrupt args c w :=
    match plan provider settings args c with
    | .error _ => none
    | .ok (p, x) => (p.interrupt (x.request settings c) w).map (c.work, ·)

/-- What is said of an agent in a list. -/
def summary (a : Agent) : Json :=
  .obj [("last_used", a.lastUsed.toJson), ("model", .str a.model), ("name", .str a.name),
    ("turns", .ofNat a.turns)]

/-- The handler that lists the agents. -/
def listHandler : Handler σ :=
  .ofAction "list_agents" "List agents alive in this session" fun _ c =>
    .ok (.obj [("agents", .arr (c.work.agents.values.map summary)),
      ("count", .ofNat c.work.agents.length)], c.work)

/-- Dismissal of an agent: its name and the number of its replies. -/
def dismiss (args : Json) (_ : Call) : Workspace.Edit Json := do
  let name ← requiredString args ["name", "agent", "title"]
  match (← get).agents.get? name with
  | some a =>
    modify fun work => { work with agents := work.agents.dismiss name }
    return .obj [("agent", .str name), ("evicted", .bool true), ("turns", .ofNat a.turns)]
  | none => throw (.failed "evict_agent" ("agent '" ++ name ++ "' not found"))

/-- The handler that dismisses an agent. -/
def dismissHandler : Handler σ :=
  .ofEdit "evict_agent" "Forget an agent and its conversation" dismiss

end Completing

end ActionTree
