import ActionTree.Proofs.Engine.Account
import ActionTree.Proofs.Handler.Variables
import ActionTree.Proofs.Space.Nodes

/-!
# Nodes without a handler

An engine lists the nodes that have the id of a handler under which nothing was registered. The list
is made once, from the tree and the table of handlers, and neither changes when lines run. So it
says of every step whether the step will find a handler.

* `Handler.Honest`: handlers that do not report a missing handler themselves.
* `Registry.IsBuiltin.honest`: the built-in ones are of this kind.
* `Engine.mem_unboundNodes_iff`: the nodes that are listed.
* `Engine.attemptIn_unknown_iff`: the steps that find no handler.
* `StepRule.of_execution`: a step that fails in execution found no handler, or was refused by it.
* `Engine.unbound_nodes_predict_failures`: the whole account.
-/

namespace ActionTree

open Arguments

/-! ## Handlers that do not report a missing one -/

/-- A handler that is called never reports that there is no handler. -/
def Handler.Honest {σ : Type} (h : Handler σ) : Prop :=
  ∀ args c w id, (h.invoke args c w).result ≠ .error (.unknownHandler id)

namespace SessionOp

/-- An operation fails for its arguments, or for what the variables are. -/
theorem on_ne_unknown (op : SessionOp) (args : Json) (c : Call) (work : Workspace) (id : String) :
    ((op.edit args c).on work).1 ≠ .error (.unknownHandler id) := by
  cases op with
  | saveVar =>
    rw [on_saveVar]
    split <;> simp [missing]
  | getVar =>
    rw [on_getVar]
    split
    · simp [missing]
    split <;> simp [notFound]
  | appendToVar =>
    rw [on_appendToVar]
    split
    · simp [missing]
    split
    · simp [notFound]
    split <;> simp
  | deleteVar =>
    rw [on_deleteVar]
    split
    · simp [missing]
    split <;> simp [notFound]
  | listVars | sessionStats | exportSession => exact fun h => by cases h

end SessionOp

namespace ToolCalls

theorem parameters_ne_unknown (args : Json) (id : String) :
    parameters args ≠ .error (.unknownHandler id) := by
  unfold parameters
  split <;> simp

theorem plan_ne_unknown (args : Json) (id : String) : plan args ≠ .error (.unknownHandler id) := by
  unfold plan requiredString
  cases stringArg? args ["tool_name"] with
  | none => exact fun h => by cases h
  | some name =>
    have hparameters := parameters_ne_unknown args id
    cases hps : parameters args with
    | ok ps => exact fun h => by cases h
    | error err =>
      rw [hps] at hparameters
      exact fun h => hparameters (congrArg Except.error (Except.error.inj h))

theorem honest_handler {σ : Type} (tools : Toolbox σ) : (handler tools).Honest := by
  intro args c w id
  simp only [handler]
  split
  · rename_i err hplan
    rintro ⟨⟩
    exact plan_ne_unknown args id hplan
  · rename_i name ps hplan
    simp only [answer]
    split
    · simp
    · split <;> simp

end ToolCalls

namespace Completing

variable {σ : Type} (provider : Option (Provider σ)) (settings : CompletionSettings)

theorem plan_ne_unknown (args : Json) (c : Call) (id : String) :
    plan provider settings args c ≠ .error (.unknownHandler id) := by
  unfold plan exchange
  cases textArg? args ["message", "prompt"] with
  | none => exact fun h => by cases h
  | some text =>
    cases stringArg? args ["agent", "title"] <;> cases provider <;> exact fun h => by cases h

theorem honest_handler : (handler provider settings).Honest := by
  intro args c w id
  simp only [handler]
  split
  · rename_i err hplan
    rintro ⟨⟩
    exact plan_ne_unknown provider settings args c id hplan
  · split <;> simp

theorem honest_dismissHandler : (dismissHandler : Handler σ).Honest := by
  intro args c w id
  change ((dismiss args c).on c.work).1 ≠ _
  rw [on_dismiss]
  split
  · simp [missing]
  split <;> simp

end Completing

/-- No built-in handler reports that there is no handler. -/
theorem Registry.IsBuiltin.honest {σ : Type} {tools : Toolbox σ} {provider : Option (Provider σ)}
    {settings : CompletionSettings} {h : Handler σ}
    (hbuiltin : IsBuiltin tools provider settings h) : h.Honest := by
  cases hbuiltin with
  | callTool => exact ToolCalls.honest_handler tools
  | complete => exact Completing.honest_handler provider settings
  | dismissAgent => exact Completing.honest_dismissHandler
  | session op => exact fun args c _ id => op.on_ne_unknown args c c.work id
  | listTools | listAgents => exact fun _ _ _ _ h => by cases h

/-! ## The list -/

namespace Registry

variable {σ : Type}

/-- Nothing is under an id if and only if nothing was registered with it. -/
theorem get?_ofHandlers_eq_none_iff {hs : List (Handler σ)} {id : String} :
    (ofHandlers hs).get? id = none ↔ ∀ h ∈ hs, h.id ≠ id := by
  simp [get?_ofHandlers]

end Registry

/-- In a tree that grew by attempts, look-ups find the nodes that are there. -/
theorem Space.resolve?_foldl_attempt_iff {attempts : List Node} {a : Address} {n : Node} :
    (attempts.foldl attempt empty).resolve? a = some n ↔
      n ∈ (attempts.foldl attempt empty).nodes ∧ n.address = a := by
  obtain ⟨hadmitted, hspace⟩ := foldl_attempt attempts
  rw [hspace, resolve?_ofNodes_eq_some_iff hadmitted, nodes_ofNodes hadmitted]

namespace Engine

variable {σ : Type} {e : Engine σ} {hs : List (Handler σ)}

/-- The nodes that are listed have the id of a handler, and nothing is under it. -/
theorem mem_unboundNodes_iff {n : Node} :
    n ∈ e.unboundNodes ↔
      n ∈ e.space.nodes ∧ ∃ id, n.handler = some id ∧ e.handlers.get? id = none := by
  rw [unboundNodes, List.mem_filter]
  refine and_congr_right fun _ => ?_
  unfold isUnbound
  cases n.handler <;> simp [Fields.has]

/-! ## One step -/

section Step

variable (signal : Option (Signal σ)) (moment : Moment) {step : Step} {session : Session} (w : σ)

/-- A call reports that there is no handler if and only if there is none. -/
theorem dispatch_unknown_iff (hhonest : ∀ id h, e.handlers.get? id = some h → h.Honest)
    {id other : String} {args : Json} {c : Call} :
    (e.dispatch signal id args c w).1 = .error (.execution (.unknownHandler other)) ↔
      e.handlers.get? id = none ∧ id = other := by
  cases hget : e.handlers.get? id with
  | none => simp [e.dispatch_of_unregistered signal hget]
  | some h =>
    have hreported := hhonest id h hget args c w other
    rcases dropped_or_kept signal h args c w with ⟨s, dropped, hsignal, hwait, hfired⟩ | hkept
    · simp [e.dispatch_of_dropped signal hget hsignal hwait hfired]
    · rw [e.dispatch_of_kept signal hget hkept]
      cases hresult : (h.invoke args c w).result with
      | ok output => simp [Except.mapError]
      | error err =>
        rw [hresult] at hreported
        simpa [Except.mapError] using hreported

/-- A step finds no handler if and only if its arguments can be resolved, and nothing is under the
id that its node has. -/
theorem attemptIn_unknown_iff (hhonest : ∀ id h, e.handlers.get? id = some h → h.Honest)
    {id : String} :
    (e.attemptIn signal moment step session w).result =
        .error (.execution (.unknownHandler id)) ↔
      ∃ n, e.space.resolve? (step.target.at_ session.nav.cursor) = some n ∧
        n.handler = some id ∧ e.handlers.get? id = none ∧
        ∃ args, step.template.resolve session.state.log = .ok args := by
  -- A step that ends before the look-up of its handler has another error or none.
  cases hnode : e.space.resolve? (step.target.at_ session.nav.cursor) with
  | none => simp [e.attemptIn_of_noNode signal moment hnode]
  | some n =>
    cases hargs : step.template.resolve session.state.log with
    | error r => simp [e.attemptIn_of_badReference signal moment hnode hargs]
    | ok args =>
      cases hid : n.handler with
      | none => simp [e.attemptIn_of_menu signal moment hnode hargs hid, hid]
      | some other =>
        rw [e.attemptIn_of_handler signal moment hnode hargs hid]
        simp only [dispatch_unknown_iff signal w hhonest, Option.some.injEq, exists_eq_left', hid]
        constructor
        · rintro ⟨hget, rfl⟩
          exact ⟨rfl, hget, args, rfl⟩
        · rintro ⟨rfl, hget, -⟩
          exact ⟨hget, rfl⟩

/-- What a step does whose node has an id that nothing is under. -/
theorem runStep_of_unbound {n : Node} {id : String} {args : Json}
    (hnode : e.space.resolve? (step.target.at_ session.nav.cursor) = some n)
    (hid : n.handler = some id) (hget : e.handlers.get? id = none)
    (hargs : step.template.resolve session.state.log = .ok args) :
    let s := e.runStep signal moment step session w
    s.record = (seenBy moment step session).failed args .execution
        ("execution failed: no handler registered for '" ++ id ++ "'") ∧
      s.session.state.work = session.state.work ∧ s.world = w := by
  intro s
  obtain ⟨-, hrecord, hwork, hworld⟩ := (e.stepRule_iff signal moment).1
    (.unregistered (w := w) (c := seenBy moment step session) hnode hargs hid hget)
  exact ⟨hrecord.symm, hwork.symm, hworld.symm⟩

end Step

end Engine

/-- A step that fails in execution has found no handler, or its handler has refused it. -/
theorem StepRule.of_execution {σ : Type} {e : Engine σ} {signal : Option (Signal σ)} {step : Step}
    {c : Call} {w : σ} {k : StepCase} {r : Record} {work : Workspace} {w' : σ}
    (h : StepRule e signal step c w k r work w') (hkind : r.kind = some .execution) :
    ∃ n id, e.space.resolve? r.address = some n ∧ n.handler = some id ∧
      (e.handlers.get? id = none ∧
          r.error = some ("execution failed: no handler registered for '" ++ id ++ "'") ∨
        ∃ h err, e.handlers.get? id = some h ∧ (h.invoke r.args c w).result = .error err ∧
          r.error = some ("execution failed: " ++ err.message)) := by
  cases h with
  | unregistered hnode _ hid hget => exact ⟨_, _, hnode, hid, .inl ⟨hget, rfl⟩⟩
  | refused hnode _ hid hget _ hended =>
    exact ⟨_, _, hnode, hid, .inr ⟨_, _, hget, congrArg Ended.result hended, rfl⟩⟩
  | badReference =>
    rename_i r _ _
    cases r <;> cases hkind
  | noNode | menu | dropped | answered => cases hkind

/-! ## All steps -/

/-- A record says that there is no handler for a node. -/
def Node.MissedBy (n : Node) (r : Record) : Prop :=
  n.address = r.address ∧ ∃ id, n.handler = some id ∧
    r.error = some ("execution failed: no handler registered for '" ++ id ++ "'")

/-- A record is of a step that one of some handlers has refused, and not for a missing handler. -/
def RefusedBy {σ : Type} (hs : List (Handler σ)) (r : Record) : Prop :=
  ∃ h ∈ hs, ∃ c w err, (h.invoke r.args c w).result = .error err ∧
    (∀ id, err ≠ .unknownHandler id) ∧ r.error = some ("execution failed: " ++ err.message)

namespace Engine

section Registered

variable {σ : Type} {e : Engine σ} {attempts : List Node} {hs : List (Handler σ)}

theorem resolve?_iff_of_attempts (hspace : e.space = attempts.foldl Space.attempt .empty)
    {a : Address} {n : Node} :
    e.space.resolve? a = some n ↔ n ∈ e.space.nodes ∧ n.address = a := by
  rw [hspace]
  exact Space.resolve?_foldl_attempt_iff

theorem mem_of_get? (hhandlers : e.handlers = .ofHandlers hs) {id : String} {h : Handler σ}
    (hget : e.handlers.get? id = some h) : h ∈ hs := by
  rw [hhandlers] at hget
  exact (Registry.mem_of_get?_ofHandlers hget).1

/-- A step that finds no handler is at a node that is listed. -/
theorem exists_unbound_of_unknown (hspace : e.space = attempts.foldl Space.attempt .empty)
    (hhandlers : e.handlers = .ofHandlers hs) (hhonest : ∀ h ∈ hs, h.Honest)
    {signal : Option (Signal σ)} {moment : Moment} {step : Step} {session : Session} {w : σ}
    {id : String}
    (hresult : (e.attemptIn signal moment step session w).result =
      .error (.execution (.unknownHandler id))) :
    ∃ n ∈ e.unboundNodes, n.address = step.target.at_ session.nav.cursor ∧ n.handler = some id := by
  have hregistered : ∀ id h, e.handlers.get? id = some h → h.Honest :=
    fun id h hget => hhonest h (mem_of_get? hhandlers hget)
  obtain ⟨n, hnode, hid, hget, -⟩ := (attemptIn_unknown_iff signal moment w hregistered).1 hresult
  obtain ⟨hn, haddress⟩ := (resolve?_iff_of_attempts hspace).1 hnode
  exact ⟨n, mem_unboundNodes_iff.2 ⟨hn, id, hid, hget⟩, haddress, hid⟩

/-- A step at a node that is listed finds no handler, and leaves all but the log as it was. -/
theorem runStep_of_mem_unboundNodes (hspace : e.space = attempts.foldl Space.attempt .empty)
    {signal : Option (Signal σ)} {moment : Moment} {step : Step} {session : Session} {w : σ}
    {n : Node} (hn : n ∈ e.unboundNodes)
    (haddress : n.address = step.target.at_ session.nav.cursor) {args : Json}
    (hargs : step.template.resolve session.state.log = .ok args) :
    let s := e.runStep signal moment step session w
    s.record.success = false ∧ s.record.kind = some .execution ∧ n.MissedBy s.record ∧
      s.session.state.work = session.state.work ∧ s.world = w := by
  obtain ⟨hmem, id, hid, hget⟩ := mem_unboundNodes_iff.1 hn
  obtain ⟨hrecord, hwork, hworld⟩ := runStep_of_unbound signal moment w
    ((resolve?_iff_of_attempts hspace).2 ⟨hmem, haddress⟩) hid hget hargs
  intro s
  rw [hrecord]
  exact ⟨rfl, rfl, ⟨haddress, id, hid, rfl⟩, hwork, hworld⟩

/-- A failure in execution is that of a node that is listed, or that of a handler. -/
theorem missed_or_refused_of_log (hspace : e.space = attempts.foldl Space.attempt .empty)
    (hhandlers : e.handlers = .ofHandlers hs) (hhonest : ∀ h ∈ hs, h.Honest) {id : String}
    {inputs : List (Input σ)} {r : Record} (hr : r ∈ (e.transcript id inputs).session.state.log)
    (hkind : r.kind = some .execution) :
    (∃ n ∈ e.unboundNodes, n.MissedBy r) ∨ RefusedBy hs r := by
  obtain ⟨place, hplace⟩ := List.getElem?_of_mem hr
  obtain ⟨_, _, _, _, _, _, _, _, _, _, _, _, -, -, -, -, -, -, -, -, hrule⟩ :=
    e.accountsFor_of_log hplace
  obtain ⟨n, hid, hnode, hhandler, ⟨hget, herror⟩ | ⟨h, err, hget, hended, herror⟩⟩ :=
    hrule.of_execution hkind
  · obtain ⟨hn, haddress⟩ := (resolve?_iff_of_attempts hspace).1 hnode
    have hlisted : n ∈ e.unboundNodes := mem_unboundNodes_iff.2 ⟨hn, hid, hhandler, hget⟩
    exact .inl ⟨n, hlisted, haddress, hid, hhandler, herror⟩
  · have hh : h ∈ hs := mem_of_get? hhandlers hget
    refine .inr ⟨h, hh, _, _, err, hended, fun other hother => ?_, herror⟩
    exact hhonest h hh _ _ _ other (hother ▸ hended)

end Registered

/-- **The list predicts what runs report.** The nodes that are listed are those with the id of a
handler that was not registered. A step finds no handler only at one of them, and there each step
whose arguments can be resolved fails in execution and changes nothing else. -/
theorem unbound_nodes_predict_failures {σ : Type} (e : Engine σ) {attempts : List Node}
    {hs : List (Handler σ)} (hspace : e.space = attempts.foldl Space.attempt .empty)
    (hhandlers : e.handlers = .ofHandlers hs) (hhonest : ∀ h ∈ hs, h.Honest) :
    (∀ n, n ∈ e.unboundNodes ↔
      n ∈ e.space.nodes ∧ ∃ id, n.handler = some id ∧ ∀ h ∈ hs, h.id ≠ id) ∧
    (∀ (signal : Option (Signal σ)) (moment : Moment) (step : Step) (session : Session) (w : σ),
      let target := step.target.at_ session.nav.cursor
      let result := (e.attemptIn signal moment step session w).result
      let s := e.runStep signal moment step session w
      (∀ id, result = .error (.execution (.unknownHandler id)) →
        ∃ n ∈ e.unboundNodes, n.address = target ∧ n.handler = some id) ∧
      ∀ n ∈ e.unboundNodes, n.address = target →
        ∀ args, step.template.resolve session.state.log = .ok args →
          s.record.success = false ∧ s.record.kind = some .execution ∧ n.MissedBy s.record ∧
            s.session.state.work = session.state.work ∧ s.world = w) ∧
    (∀ (id : String) (inputs : List (Input σ)),
      ∀ r ∈ (e.transcript id inputs).session.state.log, r.kind = some .execution →
        (∃ n ∈ e.unboundNodes, n.MissedBy r) ∨ RefusedBy hs r) ∧
    (e.unboundNodes = [] →
      (∀ (signal : Option (Signal σ)) (moment : Moment) (step : Step) (session : Session) (w : σ)
        (id : String), (e.attemptIn signal moment step session w).result ≠
          .error (.execution (.unknownHandler id))) ∧
      ∀ (id : String) (inputs : List (Input σ)),
        ∀ r ∈ (e.transcript id inputs).session.state.log, r.kind = some .execution →
          RefusedBy hs r) ∧
    ∀ (tools : Toolbox σ) (provider : Option (Provider σ)) (settings : CompletionSettings),
      ∀ h ∈ Registry.builtinHandlers tools provider settings, h.Honest := by
  have hnever : e.unboundNodes = [] → ∀ n, n ∉ e.unboundNodes := fun hnone n => by simp [hnone]
  refine ⟨fun n => ?_, fun signal moment step session w => ⟨fun id => ?_, ?_⟩,
    fun id inputs r => ?_, fun hnone => ⟨?_, ?_⟩, fun tools provider settings h hbuiltin => ?_⟩
  · rw [mem_unboundNodes_iff, hhandlers]
    simp only [Registry.get?_ofHandlers_eq_none_iff]
  · exact exists_unbound_of_unknown hspace hhandlers hhonest
  · exact fun n hn haddress args hargs => runStep_of_mem_unboundNodes hspace hn haddress hargs
  · exact missed_or_refused_of_log hspace hhandlers hhonest
  · intro signal moment step session w id hresult
    obtain ⟨n, hn, -⟩ := exists_unbound_of_unknown hspace hhandlers hhonest hresult
    exact hnever hnone n hn
  · intro id inputs r hr hkind
    rcases missed_or_refused_of_log hspace hhandlers hhonest hr hkind with ⟨n, hn, -⟩ | hrefused
    · exact absurd hn (hnever hnone n)
    · exact hrefused
  · exact (Registry.isBuiltin_of_mem hbuiltin).honest

/-- The node whose handler is nobody's is listed, and its step fails as the list predicts. -/
theorem lost_node_is_listed :
    let lost : Node := .plain ⟨0, [2]⟩ "Lost" (some "nobody")
    let start := sample.newSession "s"
    let s := sample.runStep none ⟨.epoch, fun _ => ""⟩ ⟨.absolute ⟨0, [2]⟩, []⟩ start ()
    lost ∈ sample.unboundNodes ∧ s.record.kind = some .execution ∧ lost.MissedBy s.record ∧
      s.session.state.work = start.state.work := by
  intro lost start s
  have hspace : sample.space =
      [.plain .root "Start" none, .plain ⟨0, [1]⟩ "Echo" (some "echo"), lost].foldl
        Space.attempt .empty := by decide +kernel
  have hhandlers : sample.handlers =
      .ofHandlers [.ofAction "echo" "" fun args c => .ok (args, c.work)] := rfl
  have hhonest : ∀ h ∈ [(.ofAction "echo" "" fun args c => .ok (args, c.work) : Handler Unit)],
      h.Honest := by
    intro h hh
    obtain rfl := List.mem_singleton.1 hh
    exact fun _ _ _ _ h => by cases h
  obtain ⟨hlisted, hsteps, -⟩ := sample.unbound_nodes_predict_failures hspace hhandlers hhonest
  have hlost : lost ∈ sample.unboundNodes :=
    (hlisted lost).2 ⟨by decide +kernel, "nobody", rfl, by decide +kernel⟩
  obtain ⟨-, hfails⟩ := hsteps none ⟨.epoch, fun _ => ""⟩ ⟨.absolute ⟨0, [2]⟩, []⟩ start ()
  obtain ⟨-, hkind, hmissed, hwork, -⟩ := hfails lost hlost rfl (.obj []) rfl
  exact ⟨hlost, hkind, hmissed, hwork⟩

end Engine

end ActionTree
