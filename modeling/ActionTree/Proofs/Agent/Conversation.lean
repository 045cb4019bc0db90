import ActionTree.Proofs.Engine.Atomicity
import ActionTree.Proofs.Engine.Outcome
import ActionTree.Proofs.Handler.Completion
import Mathlib.Data.List.DropRight

/-!
# Conversations with agents

What the agents of a session remember can be read off its log. A successful call for a completion
that names an agent is a turn of the conversation with it, and a successful dismissal ends the
conversation; no other step changes what the agent remembers.

* `Engine.conversation`: the turns with an agent that a log tells of.
* `Engine.AgentRule`: the three things a step can do to the agents.
* `Recalls.of_rule`: a step keeps log and agents in agreement.
* `Engine.seen_of_step`, `Engine.seen_of_question`, `Engine.messages_of_exchange`: what the provider
  is asked.
* `Engine.agents_remember_conversations`: the whole account, for every session that a shell passes.
-/

namespace ActionTree

open Arguments

/-- Who says what. -/
def Message.said (m : Message) : Role × String := (m.role, m.content)

/-- A question that was answered, with the system prompt that its call gave. -/
structure Turn where
  prompt : Option String
  question : String
  reply : String
  deriving DecidableEq

namespace Turn

/-- What a turn adds to a conversation. -/
def said (t : Turn) : List (Role × String) := [(.user, t.question), (.assistant, t.reply)]

/-- The turn that the record of a call for a completion tells of. -/
def ofRecord? (r : Record) : Option Turn := do
  return ⟨stringArg? r.args ["system_prompt"], ← textArg? r.args ["message", "prompt"],
    ← r.output.string?⟩

/-- The system prompt of a conversation: that of its first turn, and before that the one that comes
with the call. -/
def promptOf (turns : List Turn) (own : Option String) : Option String :=
  (turns.head?.map (·.prompt)).getD own

@[simp] theorem promptOf_nil (own : Option String) : promptOf [] own = own := rfl

@[simp] theorem promptOf_cons (t : Turn) (turns : List Turn) (own : Option String) :
    promptOf (t :: turns) own = t.prompt := rfl

end Turn

namespace Engine

variable {σ : Type} (e : Engine σ)

/-- A record is of a successful call of the handler of an id that names `a` under one of some
names. -/
def Names (id : String) (names : List String) (a : String) (r : Record) : Prop :=
  r.success = true ∧ (e.space.resolve? r.address).bind (·.handler) = some id ∧
    stringArg? r.args names = some a

/-- A record is of a question to an agent that was answered. -/
def Asks (a : String) (r : Record) : Prop := e.Names "model_completion" ["agent", "title"] a r

/-- A record is of the dismissal of an agent. -/
def Dismisses (a : String) (r : Record) : Prop :=
  e.Names "evict_agent" ["name", "agent", "title"] a r

instance (a : String) (r : Record) : Decidable (e.Asks a r) :=
  inferInstanceAs (Decidable (_ ∧ _ ∧ _))

instance (a : String) (r : Record) : Decidable (e.Dismisses a r) :=
  inferInstanceAs (Decidable (_ ∧ _ ∧ _))

/-- The answered questions to an agent since the beginning of a log or the last dismissal. -/
def questions (a : String) (log : List Record) : List Record :=
  (log.rtakeWhile fun r => ¬e.Dismisses a r).filter fun r => e.Asks a r

/-- The turns with an agent since the beginning of a log or the last dismissal. -/
def conversation (a : String) (log : List Record) : List Turn :=
  (e.questions a log).filterMap Turn.ofRecord?

section Concat

variable {e} {a : String} {log : List Record} {r : Record}

theorem questions_of_dismissal (h : e.Dismisses a r) : e.questions a (log ++ [r]) = [] := by
  rw [questions, List.rtakeWhile_concat_neg _ _ _ (by simpa using h), List.filter_nil]

theorem questions_of_question (hd : ¬e.Dismisses a r) (h : e.Asks a r) :
    e.questions a (log ++ [r]) = e.questions a log ++ [r] := by
  rw [questions, List.rtakeWhile_concat_pos _ _ _ (by simpa using hd), List.filter_append]
  simp [questions, h]

theorem questions_of_other (hd : ¬e.Dismisses a r) (h : ¬e.Asks a r) :
    e.questions a (log ++ [r]) = e.questions a log := by
  rw [questions, List.rtakeWhile_concat_pos _ _ _ (by simpa using hd), List.filter_append]
  simp [questions, h]

end Concat

/-! ## One step -/

/-- What a step leaves of the agents, by its record: it keeps them, dismisses one of them, or has
one of them hear a question and its reply. -/
inductive AgentRule (settings : CompletionSettings) (c : Call) (r : Record) : Agents → Prop
  | kept (hasks : ∀ a, ¬e.Asks a r) (hdismisses : ∀ a, ¬e.Dismisses a r) :
      AgentRule settings c r c.work.agents
  | dismissed {a : String} (hasks : ∀ b, ¬e.Asks b r) (hdismisses : ∀ b, e.Dismisses b r ↔ b = a) :
      AgentRule settings c r (c.work.agents.dismiss a)
  | heard {a : String} {t : Turn} {question reply : Message} (hasks : ∀ b, e.Asks b r ↔ b = a)
      (hdismisses : ∀ b, ¬e.Dismisses b r) (hturn : Turn.ofRecord? r = some t)
      (hquestion : question.said = (.user, t.question))
      (hreply : reply.said = (.assistant, t.reply)) :
      AgentRule settings c r (c.work.agents.enlist
        (((Completing.partner settings t.prompt c a).hear question c.moment.time).hear reply
          c.moment.time))

section Step

variable {e} {tools : Toolbox σ} {provider : Option (Provider σ)} {settings : CompletionSettings}
  {signal : Option (Signal σ)} {step : Step} {c : Call} {w : σ} {k : StepCase} {r : Record}
  {work : Workspace} {w' : σ}

/-- The record of a step that succeeds names `a` if its node and its arguments do. -/
theorem names_succeeded_iff {node : Node} {args : Json}
    (hnode : e.space.resolve? c.address = some node) (output : Json) (id : String)
    (names : List String) (a : String) :
    e.Names id names a (c.succeeded args output) ↔
      node.handler = some id ∧ stringArg? args names = some a := by
  simp [Names, Call.succeeded, hnode]

theorem not_names_of_failure (h : r.success = false) (id : String) (names : List String)
    (a : String) : ¬e.Names id names a r := by
  simp [Names, h]

/-- A call for a completion that is answered is a turn of the agent that it names, if any. -/
theorem agentRule_of_reply {node : Node} {args : Json} {x : Exchange} {reply : Message}
    (hnode : e.space.resolve? c.address = some node) (hid : node.handler = some "model_completion")
    (hx : Completing.exchange settings args c = .ok x) (hrole : reply.role = .assistant) :
    e.AgentRule settings c (c.succeeded args (.str reply.content)) (x.commit c reply).agents := by
  have hasks : ∀ a, e.Asks a (c.succeeded args (.str reply.content)) ↔
      stringArg? args ["agent", "title"] = some a := fun a => by
    simp [Asks, names_succeeded_iff hnode, hid]
  have hdismisses : ∀ a, ¬e.Dismisses a (c.succeeded args (.str reply.content)) := fun a => by
    simp [Dismisses, names_succeeded_iff hnode, hid]
  obtain ⟨text, htext, rfl⟩ := Completing.exchange_ok hx
  cases hname : stringArg? args ["agent", "title"] with
  | none => exact .kept (by simp [hasks, hname]) hdismisses
  | some a =>
    refine .heard (t := ⟨stringArg? args ["system_prompt"], text, reply.content⟩)
      (by simp [hasks, hname, eq_comm]) hdismisses ?_ rfl ?_
    · simp [Turn.ofRecord?, Call.succeeded, htext, Json.string?]
    · simp [Message.said, hrole]

/-- A step over the built-in handlers leaves the agents as its record tells. -/
theorem agents_of_step (hbuiltin : e.handlers = .builtin tools provider settings)
    (hprovider : ∀ p, provider = some p → p.SpeaksAsAssistant)
    (h : StepRule e signal step c w k r work w') : e.AgentRule settings c r work.agents := by
  -- A failure leaves the agents alone, so only the calls that succeed are looked at.
  cases hsuccess : r.success with
  | false =>
    rw [h.work_of_failure (e.atomic_of_builtin hbuiltin) hsuccess]
    exact .kept (fun a => not_names_of_failure hsuccess _ _ a)
      fun a => not_names_of_failure hsuccess _ _ a
  | true =>
    cases h with
    | noNode | badReference | unregistered | dropped | refused => cases hsuccess
    | menu hnode _ hmenu =>
      exact .kept (fun a => by simp [Asks, names_succeeded_iff hnode, hmenu])
        fun a => by simp [Dismisses, names_succeeded_iff hnode, hmenu]
    | answered hnode _ hid hget _ hended =>
      rw [hbuiltin] at hget
      obtain ⟨hhandler, rfl⟩ := Registry.isBuiltin_of_get? hget
      rcases hhandler.answered_cases hended with
        ⟨hcompletion, p, x, reply, hplan, hreply, rfl, rfl⟩ | ⟨hdismissal, name, hname, rfl⟩ |
          ⟨hcompletion, hdismissal, hagents⟩
      · obtain ⟨hx, hp⟩ := Completing.plan_ok hplan
        rw [hcompletion] at hid
        exact agentRule_of_reply hnode hid hx (hprovider p hp _ _ _ _ _ hreply)
      · rw [hdismissal] at hid
        exact .dismissed (a := name) (fun b => by simp [Asks, names_succeeded_iff hnode, hid])
          fun b => by simp [Dismisses, names_succeeded_iff hnode, hid, hname, eq_comm]
      · rw [hagents]
        exact .kept (fun a => by simp [Asks, names_succeeded_iff hnode, hid, hcompletion])
          fun a => by simp [Dismisses, names_succeeded_iff hnode, hid, hdismissal]

end Step

end Engine

/-! ## What agents remember -/

/-- An agent remembers turns under a name: it has the prompt of the first of them, or before that
its own, and its history is what they say. -/
structure Agent.Remembers (settings : CompletionSettings) (a : String) (own : Option String)
    (turns : List Turn) (agent : Agent) : Prop where
  name : agent.name = a
  model : agent.model = settings.model
  systemPrompt : agent.systemPrompt = Turn.promptOf turns own
  history : agent.history.map Message.said = turns.flatMap Turn.said

namespace Agent.Remembers

variable {settings : CompletionSettings} {a : String} {own : Option String} {turns : List Turn}
  {agent : Agent}

theorem new (settings : CompletionSettings) (a : String) (own : Option String) (now : Instant) :
    (Agent.new a settings.model own now).Remembers settings a own [] :=
  ⟨rfl, rfl, rfl, rfl⟩

/-- An agent that hears a turn that comes with its own prompt remembers it. -/
theorem hear {t : Turn} {question reply : Message} (h : agent.Remembers settings a t.prompt turns)
    (hquestion : question.said = (.user, t.question))
    (hreply : reply.said = (.assistant, t.reply)) (now : Instant) :
    ((agent.hear question now).hear reply now).Remembers settings a own (turns ++ [t]) where
  name := h.name
  model := h.model
  systemPrompt := by
    have hprompt : Turn.promptOf (turns ++ [t]) own = Turn.promptOf turns t.prompt := by
      cases turns <;> rfl
    exact hprompt ▸ h.systemPrompt
  history := by simp [Agent.hear, h.history, hquestion, hreply, Turn.said]

/-- The replies that an agent has heard are its turns. -/
theorem turns_eq (h : agent.Remembers settings a own turns) : agent.turns = turns.length := by
  have hcount : agent.turns = (agent.history.map Message.said).countP (·.1 = .assistant) := by
    rw [List.countP_map]
    rfl
  rw [hcount, h.history]
  clear h hcount
  induction turns with
  | nil => rfl
  | cons t turns ih => simp [Turn.said, ih]

end Agent.Remembers

/-- A log tells of an agent what the table has under its name: nothing before the first turn, and
then an agent that remembers all turns. -/
structure Recalled {σ : Type} (e : Engine σ) (settings : CompletionSettings) (a : String)
    (log : List Record) (entry : Option Agent) : Prop where
  complete : (e.conversation a log).length = (e.questions a log).length
  absent : entry = none ↔ e.conversation a log = []
  present : ∀ agent, entry = some agent →
    ∀ own, agent.Remembers settings a own (e.conversation a log)

namespace Recalled

variable {σ : Type} {e : Engine σ} {settings : CompletionSettings} {a : String} {log : List Record}
  {entry : Option Agent} {r : Record}

theorem new (e : Engine σ) (settings : CompletionSettings) (a : String) :
    Recalled e settings a [] none :=
  ⟨rfl, ⟨fun _ => rfl, fun _ => rfl⟩, fun _ h => by cases h⟩

/-- The partner of a call remembers the conversation so far. -/
theorem partner (h : Recalled e settings a log entry) {c : Call}
    (hentry : c.work.agents.get? a = entry) (own : Option String) :
    (Completing.partner settings own c a).Remembers settings a own (e.conversation a log) := by
  unfold Completing.partner
  rw [hentry]
  cases entry with
  | some agent => exact h.present agent rfl own
  | none =>
    rw [h.absent.1 rfl]
    exact .new settings a own c.moment.time

theorem of_other (h : Recalled e settings a log entry) (hasks : ¬e.Asks a r)
    (hdismisses : ¬e.Dismisses a r) : Recalled e settings a (log ++ [r]) entry := by
  obtain ⟨hcomplete, habsent, hpresent⟩ := h
  simp only [Engine.conversation] at hcomplete habsent hpresent
  rw [← Engine.questions_of_other hdismisses hasks] at hcomplete habsent hpresent
  exact ⟨hcomplete, habsent, hpresent⟩

theorem of_dismissal (h : e.Dismisses a r) : Recalled e settings a (log ++ [r]) none := by
  have hnone : e.questions a (log ++ [r]) = [] := Engine.questions_of_dismissal h
  refine ⟨?_, ?_, fun _ h => by cases h⟩ <;> simp [Engine.conversation, hnone]

theorem of_question (h : Recalled e settings a log entry) (hasks : e.Asks a r)
    (hdismisses : ¬e.Dismisses a r) {t : Turn} (hturn : Turn.ofRecord? r = some t) {agent : Agent}
    (hagent : ∀ own, agent.Remembers settings a own (e.conversation a log ++ [t])) :
    Recalled e settings a (log ++ [r]) (some agent) := by
  have hquestions : e.questions a (log ++ [r]) = e.questions a log ++ [r] :=
    Engine.questions_of_question hdismisses hasks
  have hconversation : e.conversation a (log ++ [r]) = e.conversation a log ++ [t] := by
    simp [Engine.conversation, hquestions, hturn]
  refine ⟨?_, ?_, ?_⟩
  · rw [hconversation, hquestions, List.length_append, List.length_append, h.complete]
    rfl
  · simp [hconversation]
  · rintro _ ⟨⟩ own
    rw [hconversation]
    exact hagent own

end Recalled

/-- A log tells of all agents in a table. -/
structure Recalls {σ : Type} (e : Engine σ) (settings : CompletionSettings) (log : List Record)
    (agents : Agents) : Prop where
  sorted : agents.Sorted
  recalled : ∀ a, Recalled e settings a log (agents.get? a)

namespace Recalls

variable {σ : Type} {e : Engine σ} {tools : Toolbox σ} {provider : Option (Provider σ)}
  {settings : CompletionSettings}

section Rule

variable {log : List Record} {c : Call} {r : Record} {agents : Agents}

/-- An agent that hears a turn is enlisted under its own name. -/
theorem enlist_partner (h : Recalls e settings log c.work.agents) (a : String) (t : Turn)
    (question reply : Message) :
    let agent := ((Completing.partner settings t.prompt c a).hear question c.moment.time).hear reply
      c.moment.time
    c.work.agents.enlist agent = c.work.agents.put a agent := by
  intro agent
  have hname : agent.name = a := ((h.recalled a).partner rfl t.prompt).name
  rw [Agents.enlist, hname]

/-- A step that neither asks an agent nor dismisses it leaves it as it is. -/
theorem get?_of_other (h : Recalls e settings log c.work.agents)
    (hrule : e.AgentRule settings c r agents) {a : String} (hasks : ¬e.Asks a r)
    (hdismisses : ¬e.Dismisses a r) : agents.get? a = c.work.agents.get? a := by
  cases hrule with
  | kept => rfl
  | dismissed _ hdismissed =>
    rw [Agents.dismiss, Fields.get?_erase, if_neg ((hdismissed a).not.1 hdismisses)]
  | heard hasked =>
    rw [h.enlist_partner, Fields.get?_put, if_neg ((hasked a).not.1 hasks)]

/-- A step keeps the agents in agreement with the log. -/
theorem of_rule (h : Recalls e settings log c.work.agents)
    (hrule : e.AgentRule settings c r agents) : Recalls e settings (log ++ [r]) agents := by
  have hother : ∀ a, ¬e.Asks a r → ¬e.Dismisses a r →
      Recalled e settings a (log ++ [r]) (agents.get? a) := fun a hasks hdismisses =>
    h.get?_of_other hrule hasks hdismisses ▸ (h.recalled a).of_other hasks hdismisses
  -- The rule names one agent at most; the others are as they were, and so are their turns.
  cases hrule with
  | kept hasks hdismisses => exact ⟨h.sorted, fun a => hother a (hasks a) (hdismisses a)⟩
  | @dismissed a hasks hdismisses =>
    refine ⟨h.sorted.erase a, fun b => ?_⟩
    by_cases hb : b = a
    · rw [Agents.dismiss, Fields.get?_erase, if_pos hb]
      exact .of_dismissal ((hdismisses b).2 hb)
    · exact hother b (hasks b) ((hdismisses b).not.2 hb)
  | @heard a t question reply hasks hdismisses hturn hquestion hreply =>
    rw [h.enlist_partner] at hother ⊢
    refine ⟨h.sorted.put a _, fun b => ?_⟩
    by_cases hb : b = a
    · subst hb
      have hpartner := (h.recalled b).partner (c := c) rfl t.prompt
      rw [Fields.get?_put_self]
      exact (h.recalled b).of_question ((hasks b).2 rfl) (hdismisses b) hturn fun _ =>
        hpartner.hear hquestion hreply c.moment.time
    · exact hother b ((hasks b).not.2 hb) (hdismisses b)

end Rule

/-- What every session that a shell passes tells of its agents. -/
theorem of_reached {id : String} {session : Session} (h : e.Reached id session)
    (hbuiltin : e.handlers = .builtin tools provider settings)
    (hprovider : ∀ p, provider = some p → p.SpeaksAsAssistant) :
    Recalls e settings session.state.log session.state.work.agents := by
  refine h.invariant (P := fun s => Recalls e settings s.state.log s.state.work.agents)
    ⟨List.Pairwise.nil, fun a => .new e settings a⟩ ?_ fun _ _ h => h
  intro signal moment step session w h
  rw [Engine.runStep_log]
  exact h.of_rule (c := Engine.seenBy moment step session)
    (Engine.agents_of_step hbuiltin hprovider (e.runStep_rule signal moment step session w))

end Recalls

/-! ## What the provider is asked -/

namespace Engine

section Requests

variable {σ : Type} {e : Engine σ} {tools : Toolbox σ} {provider : Option (Provider σ)}
  {settings : CompletionSettings} {signal : Option (Signal σ)} {step : Step} {c : Call} {w : σ}
  {k : StepCase} {r : Record} {work : Workspace} {w' : σ} {seen : σ → List CompletionRequest}

/-- A step makes no request, or its record is of a call for a completion and it makes the one of
that. -/
theorem seen_of_step (hbuiltin : e.handlers = .builtin tools provider settings)
    (hledger : Ledger tools provider seen) (h : StepRule e signal step c w k r work w') :
    seen w' = seen w ∨
      (e.space.resolve? r.address).bind (·.handler) = some "model_completion" ∧
        ∃ x, Completing.exchange settings r.args c = .ok x ∧
          seen w' = seen w ++ [x.request settings c] := by
  have hcompletion : ∀ {node : Node} {id : String}, e.space.resolve? c.address = some node →
      node.handler = some id → id = "model_completion" →
        (e.space.resolve? c.address).bind (·.handler) = some "model_completion" := by
    intro node id hnode hid hcompletion
    rw [hnode, ← hcompletion, ← hid]
    rfl
  cases h with
  | noNode | badReference | menu | unregistered => exact .inl rfl
  | dropped hnode _ hid hget _ hwait =>
    rw [hbuiltin] at hget
    obtain ⟨hhandler, rfl⟩ := Registry.isBuiltin_of_get? hget
    exact (hhandler.seen_interrupt hledger hwait).imp_right (And.imp_left (hcompletion hnode hid))
  | answered hnode _ hid hget _ hended | refused hnode _ hid hget _ hended =>
    rw [hbuiltin] at hget
    obtain ⟨hhandler, rfl⟩ := Registry.isBuiltin_of_get? hget
    exact (hhandler.seen_invoke hledger hended).imp_right (And.imp_left (hcompletion hnode hid))

/-- A question that is answered has been asked. -/
theorem seen_of_question (hbuiltin : e.handlers = .builtin tools provider settings)
    (hledger : Ledger tools provider seen) (h : StepRule e signal step c w k r work w') {a : String}
    (hasks : e.Asks a r) : seen w' ≠ seen w := by
  obtain ⟨hsuccess, hid, -⟩ := hasks
  cases h with
  | noNode | badReference | unregistered | dropped | refused => cases hsuccess
  | menu hnode _ hmenu => simp [Call.succeeded, hnode, hmenu] at hid
  | answered hnode _ hhandler hget _ hended =>
    simp only [Call.succeeded, hnode, Option.bind_some, hhandler, Option.some.injEq] at hid
    rw [hbuiltin] at hget
    obtain ⟨hhandler, hid'⟩ := Registry.isBuiltin_of_get? hget
    rcases hhandler.answered_cases hended with
      ⟨-, p, x, reply, hplan, hreply, -, -⟩ | ⟨hdismissal, -⟩ | ⟨hother, -⟩
    · have hseen := hledger.complete p (Completing.plan_ok hplan).2 (x.request settings c)
        c.replyStamp w
      rw [hreply] at hseen
      rw [hseen]
      simp
    · rw [hid', hid] at hdismissal
      exact absurd hdismissal (by decide)
    · exact absurd (hid'.trans hid) hother

/-- The request of a call for an agent: the prompt of the conversation, the conversation and the
new question. -/
theorem messages_of_exchange {a : String} {log : List Record} {args : Json} {x : Exchange}
    (h : Recalls e settings log c.work.agents) (hx : Completing.exchange settings args c = .ok x)
    (ha : stringArg? args ["agent", "title"] = some a) :
    ∃ text, textArg? args ["message", "prompt"] = some text ∧ x.model = settings.model ∧
      (x.request settings c).messages.map Message.said =
        (Turn.promptOf (e.conversation a log) (stringArg? args ["system_prompt"])).toList.map
            (Role.system, ·) ++
          (e.conversation a log).flatMap Turn.said ++ [(.user, text)] := by
  obtain ⟨text, htext, rfl⟩ := Completing.exchange_ok hx
  have hpartner := (h.recalled a).partner (c := c) rfl (stringArg? args ["system_prompt"])
  refine ⟨text, htext, ?_, ?_⟩
  · simp only [ha]
    exact hpartner.model
  · simp only [ha, Exchange.request, ← hpartner.systemPrompt, ← hpartner.history]
    cases (Completing.partner settings (stringArg? args ["system_prompt"]) c a).systemPrompt <;>
      simp [Message.said, Stamp.message]

end Requests

/-- **Agents remember their conversations.** Without turns since the last dismissal an agent is not
there; with turns it has them as its history, under its own name, with its model and its prompt. A
request for it consists of the prompt, the history and the new question. -/
theorem agents_remember_conversations {σ : Type} (e : Engine σ) {tools : Toolbox σ}
    {provider : Option (Provider σ)} {settings : CompletionSettings}
    (hbuiltin : e.handlers = .builtin tools provider settings)
    (hprovider : ∀ p, provider = some p → p.SpeaksAsAssistant) {id : String} {session : Session}
    (hreached : e.Reached id session) (a : String) :
    let agents := session.state.work.agents
    let turns := e.conversation a session.state.log
    turns.length = (e.questions a session.state.log).length ∧
    (turns = [] → agents.filter (·.1 = a) = []) ∧
    (∀ first rest, turns = first :: rest →
      ∃ agent, agents.filter (·.1 = a) = [(a, agent)] ∧ agent.name = a ∧
        agent.model = settings.model ∧ agent.systemPrompt = first.prompt ∧
        agent.history.map Message.said = turns.flatMap Turn.said ∧
        agent.turns = turns.length) ∧
    ∀ (signal : Option (Signal σ)) (moment : Moment) (step : Step) (w : σ),
      let s := e.runStep signal moment step session w
      (¬e.Asks a s.record → ¬e.Dismisses a s.record →
        s.session.state.work.agents.get? a = agents.get? a) ∧
      ∀ seen, Ledger tools provider seen →
        (e.Asks a s.record → seen s.world ≠ seen w) ∧
        (seen s.world = seen w ∨
          (e.space.resolve? s.record.address).bind (·.handler) = some "model_completion" ∧
            ∃ request, seen s.world = seen w ++ [request] ∧
              (stringArg? s.record.args ["agent", "title"] = some a →
                ∃ text, textArg? s.record.args ["message", "prompt"] = some text ∧
                  request.model = settings.model ∧
                  request.messages.map Message.said =
                    (Turn.promptOf turns (stringArg? s.record.args ["system_prompt"])).toList.map
                      (Role.system, ·) ++ turns.flatMap Turn.said ++ [(.user, text)])) := by
  intro agents turns
  have hrecalls : Recalls e settings session.state.log agents :=
    .of_reached hreached hbuiltin hprovider
  have hrecalled := hrecalls.recalled a
  have hfilter := hrecalls.sorted.filter_key a
  refine ⟨hrecalled.complete, fun hnone => ?_, fun first rest hturns => ?_, ?_⟩
  · rw [hfilter, hrecalled.absent.2 hnone]
    rfl
  · cases hget : agents.get? a with
    | none =>
      have hnone : turns = [] := hrecalled.absent.1 hget
      simp [hnone] at hturns
    | some agent =>
      have hremembers := hrecalled.present agent hget none
      rw [hget] at hfilter
      refine ⟨agent, hfilter, hremembers.name, hremembers.model, ?_, hremembers.history,
        hremembers.turns_eq⟩
      rw [hremembers.systemPrompt]
      simp only [turns] at hturns
      rw [hturns, Turn.promptOf_cons]
  · intro signal moment step w s
    have hrule := e.runStep_rule signal moment step session w
    refine ⟨fun hasks hdismisses => ?_, fun seen hledger => ?_⟩
    · exact hrecalls.get?_of_other (c := seenBy moment step session)
        (agents_of_step hbuiltin hprovider hrule) hasks hdismisses
    · refine ⟨seen_of_question hbuiltin hledger hrule, ?_⟩
      rcases seen_of_step hbuiltin hledger hrule with hnone | ⟨hid, x, hx, hseen⟩
      · exact .inl hnone
      · refine .inr ⟨hid, _, hseen, fun ha => ?_⟩
        exact messages_of_exchange (c := seenBy moment step session) hrecalls hx ha

/-- A provider that says yes, in a world of the requests that were made to it. -/
def yesSayer : Provider (List CompletionRequest) where
  name := "yes"
  complete request stamp w := (.ok ⟨stamp.message .assistant "Yes.", none, "m"⟩, w ++ [request])
  interrupt request w := some (w ++ [request])

theorem speaksAsAssistant_yesSayer : yesSayer.SpeaksAsAssistant := by
  rintro request stamp w reply w' ⟨⟩
  rfl

theorem ledger_yesSayer : Ledger [] (some yesSayer) id where
  complete := by
    rintro _ ⟨⟩ request stamp w
    rfl
  interrupt := by
    rintro _ ⟨⟩ request w w' ⟨⟩
    rfl
  tool _ _ _ := rfl
  toolInterrupt := by
    rintro name ps w w' ⟨⟩

/-- A menu over a question to that provider. -/
def oracle : Engine (List CompletionRequest) where
  space := ⟨[.plain ⟨0, [1]⟩ "Ask" (some "model_completion"), .plain .root "Start" none],
    [.root, ⟨0, [1]⟩], [(.root, [⟨0, [1]⟩])]⟩
  handlers := .builtin [] (some yesSayer) ⟨"m", defaultTemperature, none⟩
  options := ⟨false⟩

/-- Ann keeps the prompt of her first turn, and her next request repeats that turn. -/
theorem conversation_with_ann :
    let moment : Moment := ⟨.epoch, fun _ => ""⟩
    let ask (args : Fields Json) : Step := ⟨.absolute ⟨0, [1]⟩, ("agent", .str "Ann") :: args⟩
    let session := (oracle.runStep none moment
      (ask [("prompt", .str "Well?"), ("system_prompt", .str "Be brief.")])
      (oracle.newSession "s") []).session
    let s := oracle.runStep none moment (ask [("prompt", .str "And now?")]) session []
    oracle.conversation "Ann" session.state.log = [⟨some "Be brief.", "Well?", "Yes."⟩] ∧
      (∃ agent, session.state.work.agents.filter (·.1 = "Ann") = [("Ann", agent)] ∧
        agent.systemPrompt = some "Be brief." ∧ agent.turns = 1) ∧
      ∃ request, s.world = [request] ∧
        request.messages.map Message.said = [(.system, "Be brief."), (.user, "Well?"),
          (.assistant, "Yes."), (.user, "And now?")] := by
  intro moment ask session s
  have hbuiltin : oracle.handlers =
      .builtin [] (some yesSayer) ⟨"m", defaultTemperature, none⟩ := rfl
  have hprovider : ∀ p, some yesSayer = some p → p.SpeaksAsAssistant := by
    rintro _ ⟨⟩
    exact speaksAsAssistant_yesSayer
  have hreached : oracle.Reached "s" session := .step (.line []) none moment _ []
  have hturns : oracle.conversation "Ann" session.state.log =
      [⟨some "Be brief.", "Well?", "Yes."⟩] := by decide +kernel
  obtain ⟨-, -, hagent, hsteps⟩ :=
    oracle.agents_remember_conversations hbuiltin hprovider hreached "Ann"
  refine ⟨hturns, ?_, ?_⟩
  · obtain ⟨agent, hentry, -, -, hprompt, -, hcount⟩ := hagent _ _ hturns
    rw [hturns] at hcount
    exact ⟨agent, hentry, hprompt, hcount⟩
  · obtain ⟨-, hrequests⟩ := hsteps none moment (ask [("prompt", .str "And now?")]) []
    have hlength : s.world.length = 1 := by decide +kernel
    have hname : stringArg? s.record.args ["agent", "title"] = some "Ann" := by decide +kernel
    have hquestion : textArg? s.record.args ["message", "prompt"] = some "And now?" := by
      decide +kernel
    rcases (hrequests id ledger_yesSayer).2 with hnone | ⟨-, request, hseen, hmessages⟩
    · rw [show s.world = [] from hnone] at hlength
      cases hlength
    · obtain ⟨text, htext, -, hsaid⟩ := hmessages hname
      rw [hquestion, Option.some.injEq] at htext
      rw [hturns, ← htext] at hsaid
      exact ⟨request, hseen, hsaid⟩

end Engine

end ActionTree
