import ActionTree.Agent.Message
import ActionTree.Fields

/-!
# Agents

An agent is a named partner of completions: its model, its system prompt and the conversation so
far. A session keeps its agents in a table by name.

In the program: `AgentHandle` (`Agent`, with `push` for `hear`) and `AgentRegistry` (`Agents`, with
`insert` for `enlist` and `evict` for `dismiss`).

* `Agent.turns`: the number of replies.
* `Agents.enlist`, `Agents.dismiss`: the two changes to the table.
-/

namespace ActionTree

/-- A partner of completions that remembers its conversation. -/
structure Agent where
  name : String
  model : String
  systemPrompt : Option String
  /-- The conversation so far, the oldest message first. -/
  history : List Message
  createdAt : Instant
  lastUsed : Instant
  deriving DecidableEq

namespace Agent

/-- An agent that has not spoken yet. -/
def new (name model : String) (systemPrompt : Option String) (now : Instant) : Agent :=
  ⟨name, model, systemPrompt, [], now, now⟩

/-- The number of replies in the conversation. -/
def turns (a : Agent) : Nat := a.history.countP (·.role = .assistant)

/-- The agent after one more message. -/
def hear (a : Agent) (m : Message) (now : Instant) : Agent :=
  { a with history := a.history ++ [m], lastUsed := now }

end Agent

/-- The agents of a session, by name. -/
abbrev Agents := Fields Agent

namespace Agents

/-- The agents after one is added or replaced. -/
def enlist (agents : Agents) (a : Agent) : Agents := Fields.put a.name a agents

/-- The agents without one of them. -/
def dismiss (agents : Agents) (name : String) : Agents := Fields.erase name agents

end Agents

end ActionTree
