import ActionTree.Completion.Service
import ActionTree.Proofs.Agent.Conversation
import ActionTree.Proofs.Session.Codec

/-!
# The export of a session

The document of `export_session` has the log, the variables and the agents of the session it was
called in, and from these three members the state of that session is read back. What is read back
from JSON is what was written if its times name moments and its indices fit. The clock and the
provider give such times, and the built-in handlers make no others, so every state that a shell
passes is such a state.

* `Provider.OnTime`: a provider whose replies have times that name moments.
* `Engine.Timely`: the sessions that a shell passes at moments of the calendar.
* `Engine.dated_of_step`, `Engine.Timely.dated`: all times in such a session name moments.
* `Engine.runStep_export`: the document of an export.
* `Engine.export_restores_state`: the whole account.
-/

namespace ActionTree

open Arguments

/-! ## Agents -/

theorem Agent.Valid.new {now : Instant} (h : now.isValid = true) (name model : String)
    (prompt : Option String) : (Agent.new name model prompt now).Valid :=
  ⟨h, h, fun _ hm => absurd hm List.not_mem_nil⟩

theorem Agent.Valid.hear {a : Agent} (ha : a.Valid) {m : Message} (hm : m.Valid) {now : Instant}
    (hnow : now.isValid = true) : (a.hear m now).Valid where
  createdAt := ha.createdAt
  lastUsed := hnow
  history n hn := by
    rcases List.mem_append.1 hn with hn | hn
    · exact ha.history n hn
    · exact List.mem_singleton.1 hn ▸ hm

namespace Agents.Valid

variable {agents : Agents} (h : agents.Valid)

include h

theorem enlist {a : Agent} (ha : a.Valid) : (agents.enlist a).Valid := by
  intro b hb
  rcases Fields.mem_of_mem_put hb with rfl | hb
  · exact ha
  · exact h b hb

theorem dismiss (name : String) : (agents.dismiss name).Valid :=
  fun a ha => h a (Fields.mem_of_mem_erase ha)

end Agents.Valid

/-! ## Providers -/

/-- The replies of a provider have times that name moments. -/
def Provider.OnTime {σ : Type} (p : Provider σ) : Prop :=
  ∀ request stamp w reply w', p.complete request stamp w = (.ok reply, w') →
    stamp.time.isValid = true → reply.message.Valid

/-- The replies of a service have the time that they are asked to have. -/
theorem CompletionService.onTime_provider {σ : Type} (s : CompletionService) (host : HttpHost σ) :
    (s.provider host).OnTime := by
  intro request stamp w reply w' h htime
  have hread : read request.model stamp (host.send (s.post request) w).1 = .ok reply :=
    congrArg Prod.fst h
  cases hanswer : (host.send (s.post request) w).1 with
  | error reason =>
    rw [hanswer] at hread
    cases hread
  | ok response =>
    -- What passes all checks is a reply, and it is stamped with the time that was given.
    rw [hanswer, read, readResponse] at hread
    split at hread
    · cases hread
    split at hread
    · cases hread
    split at hread
    · cases hread
    rw [readBody] at hread
    split at hread
    · cases hread
    split at hread
    · cases hread
    · cases hread
      exact htime

/-! ## One step -/

/-- All times in a state name moments, and its records carry their places. -/
structure State.Dated (s : State) : Prop where
  numbered : Numbered s.log
  log : ∀ r ∈ s.log, r.recordedAt.isValid = true
  agents : s.work.agents.Valid

theorem State.Dated.new : State.new.Dated :=
  ⟨numbered_nil, fun _ h => absurd h List.not_mem_nil, fun _ h => absurd h List.not_mem_nil⟩

/-- The indices of a state fit unless its log is too long. -/
theorem State.Dated.valid {s : State} (h : s.Dated) (hlength : s.log.length < Record.indexBound) :
    s.Valid where
  log r hr := by
    obtain ⟨i, hi, rfl⟩ := List.mem_iff_getElem.1 hr
    exact ⟨by rw [h.numbered i hi]; omega, h.log _ hr⟩
  agents := h.agents

namespace Engine

variable {σ : Type} {e : Engine σ} {tools : Toolbox σ} {provider : Option (Provider σ)}
  {settings : CompletionSettings}

section Step

variable {signal : Option (Signal σ)} {step : Step} {c : Call} {w : σ} {k : StepCase} {r : Record}
  {work : Workspace} {w' : σ}

/-- The record of a step has the time of its call. -/
theorem recordedAt_of_step (h : StepRule e signal step c w k r work w') :
    r.recordedAt = c.moment.time := by
  cases h <;> rfl

/-- The agents behind a completion: one of them has heard the question and the reply. -/
theorem valid_commit {args : Json} {x : Exchange} {reply : Message}
    (hx : Completing.exchange settings args c = .ok x) (hreply : reply.Valid)
    (htime : c.moment.time.isValid = true) (hagents : c.work.agents.Valid) :
    (x.commit c reply).agents.Valid := by
  obtain ⟨text, -, rfl⟩ := Completing.exchange_ok hx
  cases stringArg? args ["agent", "title"] with
  | none => exact hagents
  | some name =>
    have hquestion : (c.questionStamp.message .user text).Valid := htime
    have hpartner : (Completing.partner settings (stringArg? args ["system_prompt"]) c
        name).Valid := by
      unfold Completing.partner
      cases hget : c.work.agents.get? name with
      | none => exact .new htime ..
      | some a => exact hagents _ (Fields.mem_of_get? hget)
    exact hagents.enlist ((hpartner.hear hquestion htime).hear hreply htime)

/-- A step at a moment of the calendar leaves agents whose times name moments. -/
theorem valid_of_step (hbuiltin : e.handlers = .builtin tools provider settings)
    (hprovider : ∀ p, provider = some p → p.OnTime) (h : StepRule e signal step c w k r work w')
    (htime : c.moment.time.isValid = true) (hagents : c.work.agents.Valid) : work.agents.Valid := by
  cases hsuccess : r.success with
  | false =>
    rw [h.work_of_failure (e.atomic_of_builtin hbuiltin) hsuccess]
    exact hagents
  | true =>
    cases h with
    | noNode | badReference | unregistered | dropped | refused => cases hsuccess
    | menu => exact hagents
    | answered _ _ _ hget _ hended =>
      rw [hbuiltin] at hget
      rcases (Registry.isBuiltin_of_get? hget).1.answered_cases hended with
        ⟨-, p, x, reply, hplan, hreply, -, rfl⟩ | ⟨-, name, -, rfl⟩ | ⟨-, -, hsame⟩
      · obtain ⟨hx, hp⟩ := Completing.plan_ok hplan
        have hreply : reply.message.Valid :=
          hprovider p hp (x.request settings c) c.replyStamp _ reply _ hreply htime
        exact valid_commit hx hreply htime hagents
      · exact hagents.dismiss name
      · rw [hsame]
        exact hagents

end Step

/-- A step at a moment of the calendar keeps all times in a state. -/
theorem dated_runStep (hbuiltin : e.handlers = .builtin tools provider settings)
    (hprovider : ∀ p, provider = some p → p.OnTime) (signal : Option (Signal σ)) {moment : Moment}
    (htime : moment.time.isValid = true) (step : Step) {session : Session} (w : σ)
    (h : session.state.Dated) : (e.runStep signal moment step session w).session.state.Dated := by
  have hrule := e.runStep_rule signal moment step session w
  refine ⟨e.runStep_numbered signal moment h.numbered, ?_,
    valid_of_step hbuiltin hprovider hrule htime h.agents⟩
  rw [runStep_log]
  intro r hr
  rcases List.mem_append.1 hr with hr | hr
  · exact h.log r hr
  · rw [List.mem_singleton.1 hr, recordedAt_of_step hrule]
    exact htime

/-! ## Whole shells -/

/-- A session that a shell passes at moments of the calendar: it is new, behind a line, or behind a
step. -/
inductive Timely (e : Engine σ) (id : String) : Session → Prop
  | new : Timely e id (e.newSession id)
  | line {session : Session} (h : Timely e id session) {i : Input σ}
      (hi : i.moment.time.isValid = true) : Timely e id (e.answer i session).session
  | step {session : Session} (h : Timely e id session) (signal : Option (Signal σ))
      {moment : Moment} (hmoment : moment.time.isValid = true) (step : Step) (w : σ) :
      Timely e id (e.runStep signal moment step session w).session

/-- Lines at moments of the calendar lead to such sessions. -/
theorem timely_transcript {id : String} {inputs : List (Input σ)}
    (h : ∀ i ∈ inputs, i.moment.time.isValid = true) :
    e.Timely id (e.transcript id inputs).session := by
  induction inputs using List.reverseRecOn with
  | nil => exact .new
  | append_singleton inputs i ih =>
    rw [transcript_concat, goOn_session]
    obtain ⟨hinputs, hi⟩ := List.forall_mem_append.1 h
    exact (ih hinputs).line (hi i List.mem_cons_self)

/-- All times in a session that a shell passes name moments. -/
theorem Timely.dated {id : String} {session : Session} (h : e.Timely id session)
    (hbuiltin : e.handlers = .builtin tools provider settings)
    (hprovider : ∀ p, provider = some p → p.OnTime) : session.state.Dated := by
  induction h with
  | new => exact .new
  | step _ signal hmoment step w ih =>
    exact dated_runStep hbuiltin hprovider signal hmoment step w ih
  | @line session _ i hi ih =>
    rcases line_cases i.line with ⟨d, hd⟩ | ⟨hd, ⟨err, hline⟩ | ⟨c, hline⟩⟩
    · rw [(e.answer_directive session hd).2, obey_state]
      exact ih
    · rw [(e.answer_rejected session hd hline).2]
      exact ih
    · rw [(e.answer_command session hd hline).2]
      exact e.runSteps_invariant (P := fun s => s.state.Dated) i.signal i.moment
        (fun step _ session w => dated_runStep hbuiltin hprovider i.signal hi step w) ih

/-! ## The document -/

/-- The document that an export answers with. -/
def exported (c : Call) : Json :=
  .obj [("agents", c.work.agents.toJson), ("exported_at", c.moment.time.toJson),
    ("results", State.logJson c.log), ("session_id", .str c.sessionId),
    ("variables", .obj c.work.values)]

section Export

variable {signal : Option (Signal σ)} {moment : Moment} {step : Step} {session : Session} {w : σ}
  {node : Node} {args : Json}

/-- An export succeeds wherever the arguments of its step have a value. -/
theorem runStep_export (hbuiltin : e.handlers = .builtin tools provider settings)
    (hnode : e.space.resolve? (step.target.at_ session.nav.cursor) = some node)
    (hid : node.handler = some "export_session")
    (hargs : step.template.resolve session.state.log = .ok args) :
    (e.runStep signal moment step session w).record =
      (seenBy moment step session).succeeded args (exported (seenBy moment step session)) := by
  have hget : e.handlers.get? "export_session" = some SessionOp.exportSession.handler := by
    rw [hbuiltin, Registry.builtin, Registry.get?_ofHandlers]
    rfl
  have hrule : StepRule e signal step (seenBy moment step session) w .call
      ((seenBy moment step session).succeeded args (exported (seenBy moment step session)))
      session.state.work w :=
    .answered hnode hargs hid hget (by rintro s - dropped ⟨⟩) rfl
  exact (e.eq_of_stepRule signal moment hrule).2.1.symm

end Export

/-- **Exports lose nothing.** In whatever session a shell over the built-in handlers passes, an
export succeeds if its arguments have a value, and its members `results`, `variables` and `agents`
are read as the state in which it ran. All that is written of a session is read back as it was. -/
theorem export_restores_state (hbuiltin : e.handlers = .builtin tools provider settings)
    (hprovider : ∀ p, provider = some p → p.OnTime) :
    (∀ id (inputs : List (Input σ)), (∀ i ∈ inputs, i.moment.time.isValid = true) →
      e.Timely id (e.transcript id inputs).session) ∧
    (∀ id session, e.Timely id session → session.state.log.length < Record.indexBound →
      ∀ (signal : Option (Signal σ)) (moment : Moment) (step : Step) (w : σ) node args,
        e.space.resolve? (step.target.at_ session.nav.cursor) = some node →
        node.handler = some "export_session" →
        step.template.resolve session.state.log = .ok args →
          let r := (e.runStep signal moment step session w).record
          r.success = true ∧ ∃ log values agents,
            r.output.get? "results" = some log ∧
            r.output.get? "variables" = some values ∧
            r.output.get? "agents" = some agents ∧
            State.ofDocument? (.value (.obj [("agents", agents), ("context", values),
              ("results", log)])) = some session.state) ∧
    (∀ s : State, s.Valid → State.ofDocument? (.value s.toJson) = some s) ∧
    (∀ r : Record, r.Valid → Record.ofDocument? (.value r.toJson) = some r) ∧
    (∀ a : Agent, a.Valid → Agent.ofDocument? (.value a.toJson) = some a) ∧
    (∀ m : Message, m.Valid → Message.ofDocument? (.value m.toJson) = some m) ∧
    (∀ n : Node, Node.ofDocument? (.value n.toJson) = some n) ∧
    ∀ m : Menu, Menu.ofDocument? (.value m.toJson) = some m := by
  refine ⟨fun _ _ => timely_transcript, ?_, fun _ => State.ofDocument?_toJson,
    fun _ => Record.ofDocument?_toJson, fun _ => Agent.ofDocument?_toJson,
    fun _ => Message.ofDocument?_toJson, Node.ofDocument?_toJson, Menu.ofDocument?_toJson⟩
  intro id session hsession hlength signal moment step w node args hnode hid hargs r
  have hvalid := (hsession.dated hbuiltin hprovider).valid hlength
  have hr : r = (seenBy moment step session).succeeded args
      (exported (seenBy moment step session)) := runStep_export hbuiltin hnode hid hargs
  rw [hr]
  refine ⟨rfl, State.logJson session.state.log, .obj session.state.work.values,
    session.state.work.agents.toJson, ?_, ?_, ?_, State.ofDocument?_obj hvalid⟩
  all_goals simp [Call.succeeded, exported, Fields.get?, seenBy, callOf]

/-- A menu over a question to an agent and an export. -/
def archive : Engine (List CompletionRequest) where
  space := ⟨[.plain ⟨0, [2]⟩ "Export" (some "export_session"),
    .plain ⟨0, [1]⟩ "Ask" (some "model_completion"), .plain .root "Start" none],
    [.root, ⟨0, [1]⟩, ⟨0, [2]⟩], [(.root, [⟨0, [1]⟩, ⟨0, [2]⟩])]⟩
  handlers := .builtin [] (some yesSayer) ⟨"m", defaultTemperature, none⟩
  options := ⟨false⟩

/-- The state with one question to Ann is read back from its export, and from its own JSON. -/
theorem export_behind_a_question :
    let moment : Moment := ⟨.epoch, fun _ => ""⟩
    let ask : Step :=
      ⟨.absolute ⟨0, [1]⟩, [("agent", .str "Ann"), ("prompt", .str "Well?")]⟩
    let session := (archive.runStep none moment ask (archive.newSession "s") []).session
    let r := (archive.runStep none moment ⟨.absolute ⟨0, [2]⟩, []⟩ session []).record
    session.state.work.agents.keys = ["Ann"] ∧ r.success = true ∧
      (∃ log values agents, r.output.get? "results" = some log ∧
        State.ofDocument? (.value (.obj [("agents", agents), ("context", values),
          ("results", log)])) = some session.state) ∧
      State.ofDocument? (.value session.state.toJson) = some session.state := by
  intro moment ask session r
  have hbuiltin : archive.handlers =
      .builtin [] (some yesSayer) ⟨"m", defaultTemperature, none⟩ := rfl
  have hprovider : ∀ p, some yesSayer = some p → p.OnTime := by
    rintro _ ⟨⟩ request stamp w reply w' ⟨⟩ htime
    exact htime
  have htime : moment.time.isValid = true := by decide
  have hsession : archive.Timely "s" session := .step .new none htime ask []
  have hlength : session.state.log.length < Record.indexBound := by decide +kernel
  have hnode : archive.space.resolve? ⟨0, [2]⟩ =
      some (.plain ⟨0, [2]⟩ "Export" (some "export_session")) := by decide +kernel
  obtain ⟨-, hexport, hstate, -⟩ := export_restores_state hbuiltin hprovider
  obtain ⟨hsuccess, log, values, agents, hlog, -, -, hread⟩ :=
    hexport "s" session hsession hlength none moment ⟨.absolute ⟨0, [2]⟩, []⟩ [] _ (.obj []) hnode
      rfl rfl
  refine ⟨by decide +kernel, hsuccess, ⟨log, values, agents, hlog, hread⟩,
    hstate _ ((hsession.dated hbuiltin hprovider).valid hlength)⟩

end Engine

end ActionTree
