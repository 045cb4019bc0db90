import ActionTree.Proofs.Handler.Builtin

/-!
# Completions

Of the built-in handlers only `model_completion` asks the provider, once, and only for a call whose
arguments are in order. It and `evict_agent` are the only ones that change the agents.

* `Completing.exchange_ok`: what a call asks.
* `Registry.IsBuiltin.answered_cases`: what a call that succeeds leaves of the agents.
* `Ledger`: a world in which the requests to the provider can be told.
* `Registry.IsBuiltin.seen_invoke`, `Registry.IsBuiltin.seen_interrupt`: the requests of a call.
-/

namespace ActionTree

open Arguments

section Ids

variable {σ : Type} (tools : Toolbox σ) (provider : Option (Provider σ))
  (settings : CompletionSettings)

@[simp] theorem ToolCalls.handler_id : (ToolCalls.handler tools).id = "tool_call" := rfl

@[simp] theorem ToolCalls.listHandler_id : (ToolCalls.listHandler tools).id = "list_tools" := rfl

@[simp] theorem Completing.handler_id :
    (Completing.handler provider settings).id = "model_completion" := rfl

@[simp] theorem Completing.listHandler_id :
    (Completing.listHandler : Handler σ).id = "list_agents" := rfl

@[simp] theorem Completing.dismissHandler_id :
    (Completing.dismissHandler : Handler σ).id = "evict_agent" := rfl

@[simp] theorem SessionOp.handler_id (op : SessionOp) : (op.handler : Handler σ).id = op.id := rfl

@[simp] theorem SessionOp.id_ne_completion (op : SessionOp) : op.id ≠ "model_completion" := by
  cases op <;> decide

@[simp] theorem SessionOp.id_ne_dismissal (op : SessionOp) : op.id ≠ "evict_agent" := by
  cases op <;> decide

end Ids

namespace Completing

variable {σ : Type} {provider : Option (Provider σ)} {settings : CompletionSettings} {args : Json}
  {c : Call} {x : Exchange} {p : Provider σ}

/-- The agent of a name that a call with a prompt of its own asks for: the one there is, or else a
new one with that prompt. -/
def partner (settings : CompletionSettings) (own : Option String) (c : Call) (name : String) :
    Agent :=
  (c.work.agents.get? name).getD (.new name settings.model own c.moment.time)

/-- A call asks with its text: for nobody with its own prompt, for an agent with the prompt and the
model of that. -/
theorem exchange_ok (h : exchange settings args c = .ok x) :
    ∃ text, textArg? args ["message", "prompt"] = some text ∧
      x = match stringArg? args ["agent", "title"] with
        | none =>
          ⟨none, stringArg? args ["system_prompt"], settings.model,
            c.questionStamp.message .user text⟩
        | some name =>
          let agent := partner settings (stringArg? args ["system_prompt"]) c name
          ⟨some agent, agent.systemPrompt, agent.model, c.questionStamp.message .user text⟩ := by
  unfold exchange at h
  cases htext : textArg? args ["message", "prompt"] with
  | none =>
    rw [htext] at h
    cases h
  | some text =>
    rw [htext] at h
    cases hname : stringArg? args ["agent", "title"] with
    | none =>
      rw [hname] at h
      cases h
      exact ⟨text, rfl, rfl⟩
    | some name =>
      rw [hname] at h
      cases h
      exact ⟨text, rfl, rfl⟩

theorem plan_ok (h : plan provider settings args c = .ok (p, x)) :
    exchange settings args c = .ok x ∧ provider = some p := by
  unfold plan at h
  cases hx : exchange settings args c with
  | error err =>
    rw [hx] at h
    cases h
  | ok y =>
    rw [hx] at h
    cases provider with
    | none => cases h
    | some q =>
      cases h
      exact ⟨rfl, rfl⟩

end Completing

/-- The replies of a provider are messages of the assistant. -/
def Provider.SpeaksAsAssistant {σ : Type} (p : Provider σ) : Prop :=
  ∀ request stamp w reply w', p.complete request stamp w = (.ok reply, w') →
    reply.message.role = .assistant

/-- Requests to the provider can be told from the world: asking adds one, whether it is answered or
not, and tools add none. -/
structure Ledger {σ : Type} (tools : Toolbox σ) (provider : Option (Provider σ))
    (seen : σ → List CompletionRequest) : Prop where
  complete : ∀ p, provider = some p → ∀ request stamp w,
    seen (p.complete request stamp w).2 = seen w ++ [request]
  interrupt : ∀ p, provider = some p → ∀ request w w', p.interrupt request w = some w' →
    seen w' = seen w ++ [request]
  tool : ∀ name ps w, seen (tools.execute name ps w).2 = seen w
  toolInterrupt : ∀ name ps w w', tools.interrupt name ps w = some w' → seen w' = seen w

namespace Registry

variable {σ : Type} {tools : Toolbox σ} {provider : Option (Provider σ)}
  {settings : CompletionSettings} {h : Handler σ} {args : Json} {c : Call} {w : σ}

/-- A call that succeeds has asked the provider and committed the reply, has dismissed an agent, or
leaves the agents as they are. -/
theorem IsBuiltin.answered_cases (hbuiltin : IsBuiltin tools provider settings h) {output : Json}
    {work : Workspace} {w' : σ} (hended : h.invoke args c w = ⟨.ok output, work, w'⟩) :
    (h.id = "model_completion" ∧ ∃ p x reply,
        Completing.plan provider settings args c = .ok (p, x) ∧
        p.complete (x.request settings c) c.replyStamp w = (.ok reply, w') ∧
        output = .str reply.message.content ∧ work = x.commit c reply.message) ∨
      (h.id = "evict_agent" ∧ ∃ name, stringArg? args ["name", "agent", "title"] = some name ∧
        work = { c.work with agents := c.work.agents.dismiss name }) ∨
      h.id ≠ "model_completion" ∧ h.id ≠ "evict_agent" ∧ work.agents = c.work.agents := by
  cases hbuiltin with
  | callTool =>
    have hwork : work = c.work := by rw [← ToolCalls.work_invoke tools args c w, hended]
    exact .inr (.inr ⟨by simp, by simp, congrArg Workspace.agents hwork⟩)
  | listTools | listAgents =>
    cases hended
    exact .inr (.inr ⟨by simp, by simp, rfl⟩)
  | complete =>
    refine .inl ⟨rfl, ?_⟩
    -- The call succeeds, so its arguments were in order and the provider has replied.
    cases hplan : Completing.plan provider settings args c with
    | error err => simp [Completing.handler, hplan] at hended
    | ok asked =>
      obtain ⟨p, x⟩ := asked
      cases hreply : p.complete (x.request settings c) c.replyStamp w with
      | mk result w'' =>
        cases result with
        | error err => simp [Completing.handler, hplan, hreply] at hended
        | ok reply =>
          simp only [Completing.handler, hplan, hreply, Ended.mk.injEq, Except.ok.injEq] at hended
          obtain ⟨rfl, rfl, rfl⟩ := hended
          exact ⟨p, x, reply, rfl, hreply, rfl, rfl⟩
  | dismissAgent =>
    refine .inr (.inl ⟨rfl, ?_⟩)
    have hdismiss : (Completing.dismiss args c).on c.work = (.ok output, work) :=
      Handler.on_of_invoke hended
    rw [Completing.on_dismiss] at hdismiss
    split at hdismiss
    · cases hdismiss
    split at hdismiss
    · cases hdismiss
    · rename_i name hname _ _ _
      cases hdismiss
      exact ⟨name, hname, rfl⟩
  | session op =>
    refine .inr (.inr ⟨by simp, by simp, ?_⟩)
    have hwork : ((op.edit args c).on c.work).2 = work := congrArg Ended.work hended
    rw [← hwork]
    exact op.keeps_agents_edit args c c.work

section Requests

variable {seen : σ → List CompletionRequest}

/-- A call that runs to its end makes no request, or the one that its arguments are in order for. -/
theorem IsBuiltin.seen_invoke (hbuiltin : IsBuiltin tools provider settings h)
    (hledger : Ledger tools provider seen) {result : Except ExecutionError Json}
    {work : Workspace} {w' : σ} (hended : h.invoke args c w = ⟨result, work, w'⟩) :
    seen w' = seen w ∨ h.id = "model_completion" ∧
      ∃ x, Completing.exchange settings args c = .ok x ∧
        seen w' = seen w ++ [x.request settings c] := by
  have hworld : (h.invoke args c w).world = w' := congrArg Ended.world hended
  rw [← hworld]
  -- Which answer the call gave does not matter here, only the world that it leaves.
  clear hended hworld
  cases hbuiltin with
  | complete =>
    simp only [Completing.handler]
    split
    · exact .inl rfl
    · rename_i p x hplan
      obtain ⟨hx, hp⟩ := Completing.plan_ok hplan
      have hseen := hledger.complete p hp (x.request settings c) c.replyStamp w
      refine .inr ⟨trivial, x, hx, ?_⟩
      split
      all_goals
        rename_i hreply
        rwa [hreply] at hseen
  | callTool =>
    simp only [ToolCalls.handler]
    split
    · exact .inl rfl
    · exact .inl (hledger.tool ..)
  | listTools | listAgents | dismissAgent | session => exact .inl rfl

/-- A call that is dropped has made no request, or the one that its arguments are in order for. -/
theorem IsBuiltin.seen_interrupt (hbuiltin : IsBuiltin tools provider settings h)
    (hledger : Ledger tools provider seen) {work : Workspace} {w' : σ}
    (hdropped : h.interrupt args c w = some (work, w')) :
    seen w' = seen w ∨ h.id = "model_completion" ∧
      ∃ x, Completing.exchange settings args c = .ok x ∧
        seen w' = seen w ++ [x.request settings c] := by
  cases hbuiltin with
  | complete =>
    simp only [Completing.handler] at hdropped
    split at hdropped
    · cases hdropped
    · rename_i p x hplan
      obtain ⟨hx, hp⟩ := Completing.plan_ok hplan
      simp only [Option.map_eq_some_iff, Prod.mk.injEq] at hdropped
      obtain ⟨v, hinterrupt, -, rfl⟩ := hdropped
      exact .inr ⟨rfl, x, hx, hledger.interrupt p hp _ _ _ hinterrupt⟩
  | callTool =>
    simp only [ToolCalls.handler] at hdropped
    split at hdropped
    · cases hdropped
    · simp only [Option.map_eq_some_iff, Prod.mk.injEq] at hdropped
      obtain ⟨v, hinterrupt, -, rfl⟩ := hdropped
      exact .inl (hledger.toolInterrupt _ _ _ _ hinterrupt)
  | listTools | listAgents | dismissAgent | session => cases hdropped

end Requests

end Registry

end ActionTree
