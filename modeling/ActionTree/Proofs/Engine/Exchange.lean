import ActionTree.Proofs.Completion.Service
import ActionTree.Proofs.Handler.Variables

/-!
# Exchanges with a completion service

A step that asks a completion service posts one request, which says what the agent has said and
heard so far and what is asked now. What comes of the request alone decides how the step ends: with
the first choice of a completion, which the agent remembers as said by the assistant, or with a
failure that leaves variables and agents as they are.

* `Completing.asked`, `Completing.exchange_of_text`: what a call with a text asks.
* `Completing.invoke_service`: a call of the handler, by what the service answers.
* `Engine.runStep_of_completes`, `Engine.runStep_of_not_completes`: a step with that call.
* `Engine.success_runStep_iff_completes`: when that step succeeds.
* `Engine.completion_exchange`: the whole account.
-/

namespace ActionTree

open Arguments

namespace Completing

variable {settings : CompletionSettings} {args : Json} {c : Call} {text : String}

/-- The agent that a call names: the one there is, or else a new one. -/
def named (settings : CompletionSettings) (args : Json) (c : Call) : Option Agent :=
  (stringArg? args ["agent", "title"]).map
    (partner settings (stringArg? args ["system_prompt"]) c)

/-- What a call with a text asks. -/
def asked (settings : CompletionSettings) (args : Json) (c : Call) (text : String) : Exchange :=
  let agent := named settings args c
  ⟨agent, (agent.map (·.systemPrompt)).getD (stringArg? args ["system_prompt"]),
    (agent.map (·.model)).getD settings.model, c.questionStamp.message .user text⟩

/-- Who has said what in the conversation of an exchange: the system prompt, the history of the
agent, and the question. -/
def conversation (settings : CompletionSettings) (args : Json) (c : Call) (text : String) :
    List (Role × String) :=
  let agent := named settings args c
  ((agent.map (·.systemPrompt)).getD (stringArg? args ["system_prompt"])).toList.map (.system, ·)
    ++ ((agent.map (·.history)).getD []).map Message.said ++ [(.user, text)]

theorem exchange_of_text (htext : textArg? args ["message", "prompt"] = some text) :
    exchange settings args c = .ok (asked settings args c text) := by
  unfold exchange asked named
  rw [htext]
  cases stringArg? args ["agent", "title"] <;> rfl

/-- The request of an exchange says its whole conversation. -/
theorem said_asked (settings : CompletionSettings) (args : Json) (c : Call) (text : String) :
    ((asked settings args c text).request settings c).messages.map Message.said =
      conversation settings args c text := by
  simp only [Exchange.request, asked, conversation, List.map_append, List.map_cons, List.map_nil]
  congr 2
  cases ((named settings args c).map (·.systemPrompt)).getD (stringArg? args ["system_prompt"]) <;>
    rfl

/-- The agent that a call names hears its question and the reply to it. -/
theorem agents_commit_asked (settings : CompletionSettings) (args : Json) (c : Call)
    (text : String) (reply : Message) :
    ((asked settings args c text).commit c reply).agents =
      (named settings args c).elim c.work.agents fun a => c.work.agents.enlist
        { a with
          history := a.history ++ [c.questionStamp.message .user text, reply]
          lastUsed := c.moment.time } := by
  unfold asked Exchange.commit
  cases named settings args c with
  | none => rfl
  | some a => simp [Agent.hear]

/-- A call with a text ends as what the service answers is read. -/
theorem invoke_service {σ : Type} (service : CompletionService) (host : HttpHost σ) (w : σ)
    (htext : textArg? args ["message", "prompt"] = some text)
    {result : Except ProviderError Completion} :
    let x := asked settings args c text
    let sent := host.send (service.post (x.request settings c)) w
    CompletionService.read x.model c.replyStamp sent.1 = result →
      (handler (some (service.provider host)) settings).invoke args c w =
        match result with
        | .ok reply => ⟨.ok (.str reply.message.content), x.commit c reply.message, sent.2⟩
        | .error err => ⟨.error (.provider err), c.work, sent.2⟩ := by
  intro x sent hread
  have hplan : plan (some (service.provider host)) settings args c =
      .ok (service.provider host, x) := by
    rw [plan, exchange_of_text htext]
    rfl
  have hcomplete : (service.provider host).complete (x.request settings c) c.replyStamp w =
      (result, sent.2) := by
    rw [← hread]
    rfl
  simp only [handler, hplan, hcomplete]
  cases result <;> rfl

end Completing

/-- The handler of completions is registered under its id. -/
theorem Registry.get?_builtin_completion {σ : Type} (tools : Toolbox σ)
    (provider : Option (Provider σ)) (settings : CompletionSettings) :
    (builtin tools provider settings).get? "model_completion" =
      some (Completing.handler provider settings) := by
  rw [builtin, get?_ofHandlers]
  rfl

namespace Engine

section Step

variable {σ : Type} {e : Engine σ} {tools : Toolbox σ} {service : CompletionService}
  {host : HttpHost σ} {settings : CompletionSettings} {signal : Option (Signal σ)}
  {moment : Moment} {step : Step} {session : Session} {w : σ} {node : Node} {args : Json}
  {text : String}

theorem get?_completion {provider : Option (Provider σ)}
    (hbuiltin : e.handlers = .builtin tools provider settings) :
    e.handlers.get? "model_completion" = some (Completing.handler provider settings) := by
  rw [hbuiltin, Registry.get?_builtin_completion]

/-- A call that is not dropped is one whose handler does not wait where the signal fires. -/
theorem kept_of_interruption? {id : String} {h : Handler σ} {c : Call}
    (hget : e.handlers.get? id = some h) (hnone : e.interruption? signal id args c w = none) :
    ∀ s, signal = some s → ∀ dropped, h.interrupt args c w = some dropped →
      s.fired dropped.2 = false := by
  rintro s rfl dropped hwait
  simpa [interruption?, Registry.interrupt, hget, hwait] using hnone

section Service

variable (hbuiltin : e.handlers = .builtin tools (some (service.provider host)) settings)
  (hnode : e.space.resolve? (step.target.at_ session.nav.cursor) = some node)
  (hid : node.handler = some "model_completion")
  (hargs : step.template.resolve session.state.log = .ok args)
  (htext : textArg? args ["message", "prompt"] = some text)
  (hkept : e.interruption? signal "model_completion" args (seenBy moment step session) w = none)

include hbuiltin hnode hid hargs htext hkept

/-- A step whose request is completed succeeds, and the agent hears question and reply. -/
theorem runStep_of_completes {output : String} :
    let c := seenBy moment step session
    let x := Completing.asked settings args c text
    let sent := host.send (service.post (x.request settings c)) w
    let s := e.runStep signal moment step session w
    CompletionService.Completes sent.1 output →
      s.world = sent.2 ∧ s.record = c.succeeded args (.str output) ∧
        s.session.state.work = x.commit c (c.replyStamp.message .assistant output) := by
  intro c x sent s hcompletes
  have hget := get?_completion hbuiltin
  obtain ⟨reply, hread, hmessage⟩ :=
    CompletionService.read_of_completes x.model c.replyStamp hcompletes
  have hended : (Completing.handler (some (service.provider host)) settings).invoke args c w =
      ⟨.ok (.str output), x.commit c (c.replyStamp.message .assistant output), sent.2⟩ :=
    calc
      _ = ⟨.ok (.str reply.message.content), x.commit c reply.message, sent.2⟩ :=
        Completing.invoke_service service host w htext hread
      _ = _ := by
        rw [hmessage]
        rfl
  obtain ⟨-, hrecord, hwork, hworld⟩ := e.eq_of_stepRule signal moment
    (.answered hnode hargs hid hget (kept_of_interruption? hget hkept) hended)
  exact ⟨hworld.symm, hrecord.symm, hwork.symm⟩

/-- A step whose request is not completed fails and leaves the workspace as it is. -/
theorem runStep_of_not_completes :
    let c := seenBy moment step session
    let x := Completing.asked settings args c text
    let sent := host.send (service.post (x.request settings c)) w
    let s := e.runStep signal moment step session w
    (∀ output, ¬CompletionService.Completes sent.1 output) →
      s.world = sent.2 ∧ s.session.state.work = session.state.work ∧
        ∃ err, s.record = c.failed args .execution ("execution failed: " ++ err.message) ∧
          ∀ r, sent.1 = .ok r → r.status = 429 →
            err = ProviderError.rateLimited (CompletionService.delay r) := by
  intro c x sent s hnone
  have hget := get?_completion hbuiltin
  obtain ⟨err, hread, hlate⟩ :=
    CompletionService.read_of_not_completes x.model c.replyStamp hnone
  have hended : (Completing.handler (some (service.provider host)) settings).invoke args c w =
      ⟨.error (.provider err), c.work, sent.2⟩ :=
    Completing.invoke_service service host w htext hread
  obtain ⟨-, hrecord, hwork, hworld⟩ := e.eq_of_stepRule signal moment
    (.refused hnode hargs hid hget (kept_of_interruption? hget hkept) hended)
  exact ⟨hworld.symm, hwork.symm, err, hrecord.symm, hlate⟩

/-- A step leaves the world as its request does. -/
theorem world_runStep_of_service :
    let c := seenBy moment step session
    let x := Completing.asked settings args c text
    (e.runStep signal moment step session w).world =
      (host.send (service.post (x.request settings c)) w).2 := by
  intro c x
  by_cases hnone : ∀ output, ¬CompletionService.Completes
      (host.send (service.post (x.request settings c)) w).1 output
  · exact (runStep_of_not_completes hbuiltin hnode hid hargs htext hkept hnone).1
  · obtain ⟨output, hcompletes⟩ := not_forall_not.1 hnone
    exact (runStep_of_completes hbuiltin hnode hid hargs htext hkept hcompletes).1

/-- A step succeeds if and only if its request is completed. -/
theorem success_runStep_iff_completes :
    let c := seenBy moment step session
    let x := Completing.asked settings args c text
    (e.runStep signal moment step session w).record.success = true ↔
      ∃ output, CompletionService.Completes
        (host.send (service.post (x.request settings c)) w).1 output := by
  intro c x
  constructor
  · intro hsuccess
    by_contra hnone
    obtain ⟨-, -, err, hrecord, -⟩ :=
      runStep_of_not_completes hbuiltin hnode hid hargs htext hkept (not_exists.1 hnone)
    rw [hrecord] at hsuccess
    cases hsuccess
  · rintro ⟨output, hcompletes⟩
    rw [(runStep_of_completes hbuiltin hnode hid hargs htext hkept hcompletes).2.1]
    rfl

end Service

end Step

/-- **An exchange with a service.** A step that asks a completion service with a text posts one
request, if the key can stand in a header, and none otherwise. It succeeds if and only if the
response has status 200 and a body that offers a completion; the agent that was named has then heard
both. -/
theorem completion_exchange {σ : Type} (e : Engine (σ × List Post))
    {tools : Toolbox (σ × List Post)} {service : CompletionService} {host : HttpHost σ}
    {settings : CompletionSettings} (hhost : host.ChecksHeaders)
    (hbuiltin : e.handlers = .builtin tools (some (service.provider host.recorded)) settings)
    (signal : Option (Signal (σ × List Post))) (moment : Moment) (step : Step) (session : Session)
    (w : σ) (posts : List Post) {node : Node} {args : Json} {text : String}
    (hnode : e.space.resolve? (step.target.at_ session.nav.cursor) = some node)
    (hid : node.handler = some "model_completion")
    (hargs : step.template.resolve session.state.log = .ok args)
    (htext : textArg? args ["message", "prompt"] = some text)
    (hkept : e.interruption? signal "model_completion" args (seenBy moment step session) (w, posts)
      = none) :
    let c := seenBy moment step session
    let agent := Completing.named settings args c
    let s := e.runStep signal moment step session (w, posts)
    ∃ request post answer,
      request.model = (agent.map (·.model)).getD settings.model ∧
      request.maxTokens = settings.maxTokens ∧
      request.messages.map Message.said = Completing.conversation settings args c text ∧
      service.Conveys request post ∧
      (Http.Fits service.key → answer = (host.answer post w).1 ∧
        s.world = ((host.answer post w).2, posts ++ [post])) ∧
      (¬Http.Fits service.key → (∃ reason, answer = .error reason) ∧ s.world = (w, posts)) ∧
      (s.record.success = true ↔ ∃ output, CompletionService.Completes answer output) ∧
      (∀ output, CompletionService.Completes answer output →
        s.record = c.succeeded args (.str output) ∧
        s.session.state.work.values = session.state.work.values ∧
        ∃ question reply : Message, question.said = (.user, text) ∧
          reply.said = (.assistant, output) ∧
          s.session.state.work.agents = agent.elim session.state.work.agents fun a =>
            session.state.work.agents.enlist
              { a with history := a.history ++ [question, reply], lastUsed := moment.time }) ∧
      (s.record.success = false →
        s.record.kind = some .execution ∧ s.session.state.work = session.state.work) ∧
      ∀ r, answer = .ok r → r.status = 429 → ∃ n, r.Delays n ∧
        s.record = c.failed args .execution
          ("execution failed: " ++ (ProviderError.rateLimited n).message) := by
  intro c agent s
  let x := Completing.asked settings args c text
  let request := x.request settings c
  let sent := host.recorded.send (service.post request) (w, posts)
  -- The step is the exchange of the provider, read in the world that records its posts.
  have hcompleted : ∀ output, CompletionService.Completes sent.1 output → s.world = sent.2 ∧
      s.record = c.succeeded args (.str output) ∧
      s.session.state.work = x.commit c (c.replyStamp.message .assistant output) := fun _ =>
    runStep_of_completes hbuiltin hnode hid hargs htext hkept
  have hrefused := runStep_of_not_completes hbuiltin hnode hid hargs htext hkept
  have hsuccess : s.record.success = true ↔ ∃ output, CompletionService.Completes sent.1 output :=
    success_runStep_iff_completes hbuiltin hnode hid hargs htext hkept
  have hworld : s.world = sent.2 :=
    world_runStep_of_service hbuiltin hnode hid hargs htext hkept
  refine ⟨request, (service.post request).onWire, sent.1, rfl, rfl,
    Completing.said_asked settings args c text, service.conveys_post request, fun hkey => ?_,
    fun hkey => ?_, hsuccess, fun output hcompletes => ?_, fun hno => ?_, fun r hr hstatus => ?_⟩
  · rw [hworld, show sent = _ from service.send_of_fits hhost request w posts hkey]
    exact ⟨rfl, rfl⟩
  · obtain ⟨reason, hreason⟩ := service.send_of_not_fits hhost request w posts hkey
    rw [hworld, show sent = _ from hreason]
    exact ⟨⟨reason, rfl⟩, rfl⟩
  · obtain ⟨-, hrecord, hwork⟩ := hcompleted output hcompletes
    rw [hwork]
    exact ⟨hrecord, Exchange.values_commit c x _, c.questionStamp.message .user text,
      c.replyStamp.message .assistant output, rfl, rfl,
      Completing.agents_commit_asked settings args c text _⟩
  · rw [← Bool.not_eq_true, hsuccess, not_exists] at hno
    obtain ⟨-, hwork, err, hrecord, -⟩ := hrefused hno
    rw [hrecord]
    exact ⟨rfl, hwork⟩
  · have hnone := CompletionService.not_completes_of_status hr (by rw [hstatus]; decide)
    obtain ⟨-, -, err, hrecord, hlate⟩ := hrefused hnone
    rw [hlate r hr hstatus] at hrecord
    exact ⟨_, CompletionService.delays_iff.2 rfl, hrecord⟩

/-- A service under an address with slashes at its end. -/
def desk : CompletionService := ⟨"desk", "http://desk/v1//", "k"⟩

/-- A menu over a question. -/
def lobby : Space :=
  ⟨[.plain ⟨0, [1]⟩ "Ask" (some "model_completion"), .plain .root "Start" none],
    [.root, ⟨0, [1]⟩], [(.root, [⟨0, [1]⟩])]⟩

/-- The question goes to that service, which answers every request alike. -/
def counter (r : HttpResponse) : Engine (Unit × List Post) where
  space := lobby
  handlers :=
    .builtin [] (some (desk.provider (HttpHost.constant (.ok r)).recorded))
      ⟨"m", defaultTemperature, some 64⟩
  options := ⟨false⟩

/-- A reply without content under a role of its own is an empty one of the assistant, and behind
status 429 the same body is none. -/
theorem exchange_at_counter :
    let moment : Moment := ⟨.epoch, fun _ => ""⟩
    let ask : Step := ⟨.absolute ⟨0, [1]⟩, [("agent", .str "Ann"), ("prompt", .str "Well?")]⟩
    let body := "\x7b\"choices\": [\x7b\"message\": " ++
      "\x7b\"role\": \"tool\", \"content\": null\x7d\x7d]\x7d"
    let session : Session := .new "s" .root
    let step (r : HttpResponse) := (counter r).runStep none moment ask session ((), [])
    let answered := step ⟨200, [], body⟩
    let refused := step ⟨429, [("Retry-After", " +07")], body⟩
    (∃ request post, request.messages.map Message.said = [(.user, "Well?")] ∧
      request.maxTokens = some 64 ∧ desk.Conveys request post ∧ answered.world = ((), [post])) ∧
    answered.record.success = true ∧ answered.record.output = .str "" ∧
    (∃ question reply, reply.said = (.assistant, "") ∧
      (answered.session.state.work.agents.get? "Ann").map (·.history) = some [question, reply]) ∧
    refused.record.success = false ∧ refused.session.state.work = session.state.work ∧
    refused.record.error =
      some ("execution failed: " ++ (ProviderError.rateLimited 7).message) := by
  intro moment ask body session step answered refused
  have hbuiltin : ∀ r, (counter r).handlers = .builtin []
      (some (desk.provider (HttpHost.constant (.ok r)).recorded))
      ⟨"m", defaultTemperature, some 64⟩ := fun _ => by rw [counter]
  have hnode : lobby.resolve? ⟨0, [1]⟩ =
      some (.plain ⟨0, [1]⟩ "Ask" (some "model_completion")) := by decide +kernel
  have hargs : ask.template.resolve session.state.log =
      .ok (.obj [("agent", .str "Ann"), ("prompt", .str "Well?")]) := by decide +kernel
  have htext : textArg? (.obj [("agent", .str "Ann"), ("prompt", .str "Well?")])
      ["message", "prompt"] = some "Well?" := by decide +kernel
  have hstep := fun r => completion_exchange (counter r) (HttpHost.checksHeaders_constant (.ok r))
    (hbuiltin r) none moment ask session () [] hnode rfl hargs htext rfl
  have hkey : Http.Fits desk.key := List.all_eq_true.1 (by decide +kernel)
  have hoffer : Choices.FirstOffer body "" :=
    Choices.ofBody?_cons_iff.1 ⟨⟨none, [""], none⟩, [], by decide +kernel, rfl⟩
  obtain ⟨request, post, answer, -, hlimit, hsaid, hconveys, hposted, -, -, hreply, -, -⟩ :=
    hstep ⟨200, [], body⟩
  obtain ⟨hanswer, hworld⟩ := hposted hkey
  obtain ⟨hrecord, -, question, reply, -, hassistant, hagents⟩ :=
    hreply "" ⟨_, hanswer, rfl, hoffer⟩
  obtain ⟨_, _, _, -, -, -, -, hbusy, -, -, -, hfailed, hdelay⟩ :=
    hstep ⟨429, [("Retry-After", " +07")], body⟩
  obtain ⟨n, hn, hlate⟩ := hdelay _ (hbusy hkey).1 rfl
  have hseven : n = 7 := (CompletionService.delays_iff.1 hn).trans (by decide +kernel)
  have hno : refused.record.success = false := congrArg Record.success hlate
  refine ⟨⟨request, post, ?_, hlimit, hconveys, hworld⟩, ?_, ?_, ⟨question, reply, hassistant, ?_⟩,
    hno, (hfailed hno).2, ?_⟩
  · exact hsaid.trans (by decide +kernel)
  · exact congrArg Record.success hrecord
  · exact congrArg Record.output hrecord
  · have hann : Completing.named ⟨"m", defaultTemperature, some 64⟩
        (.obj [("agent", .str "Ann"), ("prompt", .str "Well?")])
        (seenBy moment ask session) = some (.new "Ann" "m" none .epoch) := by decide +kernel
    rw [hagents, hann]
    rfl
  · rw [← hseven]
    exact congrArg Record.error hlate

end Engine

end ActionTree
