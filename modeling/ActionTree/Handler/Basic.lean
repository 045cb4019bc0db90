import ActionTree.Completion.Basic
import ActionTree.Session.Basic
import ActionTree.Text.Quoted

/-!
# Handlers

A handler carries out the action of a node. It is called with the arguments of the step and sees the
session as it was before the step; it may change the variables and the agents, and a world with
states `σ` outside of the session. A `Registry` is a table of handlers by id: a handler replaces an
earlier one of its id.

In the program: `HandlerContext` (`Call`), `Handler` and `HandlerRegistry` (`Registry`), with
`register` and `invoke`. What a call is dropped in, `interrupt`, is no function of the program: it
is where its `invoke` was when the engine let go of it.

* `Handler.invoke`: the call from its start to its end.
* `Handler.interrupt`: the call as far as it got, if the line was cancelled while the handler
  waited.
* `Handler.ofAction`: a handler that never waits and changes nothing when it fails.
* `Handler.ofEdit`: a handler that never waits and changes the workspace step by step.
-/

namespace ActionTree

/-- What a handler sees of the session. -/
structure Call where
  sessionId : String
  /-- The address of the node. -/
  address : Address
  /-- The records before this step. -/
  log : List Record
  work : Workspace
  moment : Moment

namespace Call

/-- The stamp of the message that a step asks with. -/
def questionStamp (c : Call) : Stamp := c.moment.stamp (2 * c.log.length)

/-- The stamp of the message that a step is answered with. -/
def replyStamp (c : Call) : Stamp := c.moment.stamp (2 * c.log.length + 1)

end Call

/-- How a call ended. -/
structure Ended (σ : Type) where
  result : Except ExecutionError Json
  work : Workspace
  world : σ

/-- Changes to a workspace that may end in an error; what was changed before the error stays. -/
abbrev Workspace.Edit (α : Type) : Type := ExceptT ExecutionError (StateM Workspace) α

/-- An action that nodes can be bound to, in a world with states `σ`. -/
structure Handler (σ : Type) where
  id : String
  description : String
  /-- The call from its start to its end. -/
  invoke : Json → Call → σ → Ended σ
  /-- The workspace and the world in which the line is cancelled while the handler waits, if that
  happens. -/
  interrupt : Json → Call → σ → Option (Workspace × σ)

namespace Handler

variable {σ : Type}

/-- The end of a call by an action: the workspace changes only if the action succeeds. -/
def Ended.ofAction (c : Call) (w : σ) : Except ExecutionError (Json × Workspace) → Ended σ
  | .ok (v, work) => ⟨.ok v, work, w⟩
  | .error e => ⟨.error e, c.work, w⟩

/-- A handler that never waits and changes nothing when it fails. -/
def ofAction (id description : String)
    (action : Json → Call → Except ExecutionError (Json × Workspace)) : Handler σ :=
  ⟨id, description, fun args c w => Ended.ofAction c w (action args c), fun _ _ _ => none⟩

/-- The end of a call by an edit: the workspace is as the edit leaves it, also when it fails. -/
def Ended.ofEdit (c : Call) (w : σ) (edit : Workspace.Edit Json) : Ended σ :=
  let (result, work) := edit.run.run c.work
  ⟨result, work, w⟩

/-- A handler that never waits and edits the workspace. -/
def ofEdit (id description : String) (edit : Json → Call → Workspace.Edit Json) : Handler σ :=
  ⟨id, description, fun args c w => Ended.ofEdit c w (edit args c), fun _ _ _ => none⟩

end Handler

/-- Handlers by id. -/
abbrev Registry (σ : Type) := Fields (Handler σ)

namespace Registry

variable {σ : Type}

/-- The handlers with one more; it replaces a handler of its id. -/
def register (handlers : Registry σ) (h : Handler σ) : Registry σ := Fields.put h.id h handlers

/-- The handlers of a list. -/
def ofHandlers (hs : List (Handler σ)) : Registry σ := hs.foldl register []

/-- The call of the handler registered under an id. -/
def invoke (handlers : Registry σ) (id : String) (args : Json) (c : Call) (w : σ) : Ended σ :=
  match handlers.get? id with
  | some h => h.invoke args c w
  | none => ⟨.error (.unknownHandler id), c.work, w⟩

/-- The workspace and the world in which the line is cancelled while the handler of an id waits, if
that happens. -/
def interrupt (handlers : Registry σ) (id : String) (args : Json) (c : Call) (w : σ) :
    Option (Workspace × σ) :=
  (handlers.get? id).bind (·.interrupt args c w)

/-- The ids on one line. -/
def summary (handlers : Registry σ) : String :=
  Text.recordLine "HandlerRegistry" [("handlers", Text.listLine (handlers.keys.map Text.quoted))]

end Registry

end ActionTree
