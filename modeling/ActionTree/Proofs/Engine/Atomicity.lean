import ActionTree.Proofs.Engine.Outcome
import ActionTree.Proofs.Handler.Builtin

/-!
# Failed steps

A failed step leaves nothing but its record. The engine itself never touches the workspace, so this
comes down to the handlers: each of the built-in ones leaves the workspace as it is when it fails
and when its call is dropped.

* `StepRule.work_of_failure`: a step that fails leaves the workspace of its call.
* `Engine.failed_steps_are_atomic`: one step in any session, and each record of a shell.
-/

namespace ActionTree

/-- A step that fails leaves the workspace as its handler found it. -/
theorem StepRule.work_of_failure {σ : Type} {e : Engine σ} {signal : Option (Signal σ)}
    {step : Step} {c : Call} {w : σ} {k : StepCase} {r : Record} {work : Workspace} {w' : σ}
    (hatomic : ∀ id h, e.handlers.get? id = some h → h.Atomic)
    (h : StepRule e signal step c w k r work w') (hfailed : r.success = false) :
    work = c.work := by
  cases h with
  | noNode | badReference | unregistered => rfl
  | menu | answered => cases hfailed
  | dropped _ _ _ hget _ hwait => exact (hatomic _ _ hget).dropped _ _ _ _ _ hwait
  | refused _ _ _ hget _ hended =>
    have hkept := (hatomic _ _ hget).failed _ c w _ (congrArg Ended.result hended)
    rwa [hended] at hkept

namespace Engine

variable {σ : Type} (e : Engine σ)

/-- A failed step of an engine with atomic handlers adds its record to the session, and that is
all. -/
theorem runStep_of_failure (hatomic : ∀ id h, e.handlers.get? id = some h → h.Atomic)
    (signal : Option (Signal σ)) (moment : Moment) (step : Step) (session : Session) (w : σ)
    (hfailed : (e.runStep signal moment step session w).record.success = false) :
    (e.runStep signal moment step session w).session =
      { session with
        state := ⟨session.state.log ++ [(e.runStep signal moment step session w).record],
          session.state.work⟩ } := by
  have hwork := (e.runStep_rule signal moment step session w).work_of_failure hatomic hfailed
  rw [runStep_session] at hwork ⊢
  simp only at hwork
  rw [hwork]
  rfl

/-- The handlers of an engine over the built-in ones are atomic. -/
theorem atomic_of_builtin {tools : Toolbox σ} {provider : Option (Provider σ)}
    {settings : CompletionSettings} (h : e.handlers = .builtin tools provider settings) :
    ∀ id h, e.handlers.get? id = some h → h.Atomic := by
  intro id handler hget
  rw [h] at hget
  exact (Registry.isBuiltin_of_get? hget).1.atomic

/-- **Failed steps are atomic.** A step over the built-in handlers that fails, for whatever reason,
adds its record to the session it ran in and leaves the variables, the agents and the path as they
were. So in every line of a shell the steps behind a failed one find what the steps before it have
left, and its record. -/
theorem failed_steps_are_atomic {tools : Toolbox σ} {provider : Option (Provider σ)}
    {settings : CompletionSettings} (hbuiltin : e.handlers = .builtin tools provider settings) :
    (∀ (signal : Option (Signal σ)) (moment : Moment) (step : Step) (session : Session) (w : σ),
      let s := e.runStep signal moment step session w
      s.record.success = false →
        s.session = { session with
          state := ⟨session.state.log ++ [s.record], session.state.work⟩ }) ∧
    ∀ (id : String) (inputs : List (Input σ)) (i : Input σ) (command : Command),
      Directive.ofLine? i.line = none → Line.parse i.line = .ok command →
        let start := (e.transcript id inputs).session
        let after := (e.answer i start).session
        ∃ o, (e.answer i start).response = .outcome o ∧
          ∀ j r, o.steps[j]? = some r → r.success = false →
            ∃ s w w' w'',
              StepsRun e i.signal i.moment (command.steps.take j) start i.world (o.steps.take j)
                s w ∧
              StepsRun e i.signal i.moment ((command.steps.take o.steps.length).drop (j + 1))
                { s with state := ⟨s.state.log ++ [r], s.state.work⟩ } w' (o.steps.drop (j + 1))
                { after with nav := start.nav } w'' := by
  have hatomic := e.atomic_of_builtin hbuiltin
  refine ⟨e.runStep_of_failure hatomic, fun id inputs i command hd hline => ?_⟩
  intro start after
  obtain ⟨hresponse, hsession⟩ := e.answer_command start hd hline
  refine ⟨_, hresponse, fun j r hr hfailed => ?_⟩
  obtain ⟨w'', hran⟩ := e.execute_ran i.signal i.moment command start i.world
  obtain ⟨step, s, w, -, hbefore, -, rfl, hbehind⟩ := hran.exists_around hr
  have hj := (List.getElem?_eq_some_iff.1 hr).1
  rw [List.take_take, Nat.min_eq_left (Nat.le_of_lt hj)] at hbefore
  rw [e.runStep_of_failure hatomic _ _ _ _ _ hfailed, ← hsession] at hbehind
  exact ⟨s, w, _, w'', hbefore, hbehind⟩

/-- A menu over two actions on variables, with the built-in handlers and failures that do not end
lines. -/
def office : Engine Unit where
  space := ⟨[.plain ⟨0, [2]⟩ "Append" (some "append_to_var"),
    .plain ⟨0, [1]⟩ "Save" (some "save_var"), .plain .root "Start" none],
    [.root, ⟨0, [1]⟩, ⟨0, [2]⟩], [(.root, [⟨0, [1]⟩, ⟨0, [2]⟩])]⟩
  handlers := .builtin [] none ⟨"m", defaultTemperature, none⟩
  options := ⟨true⟩

/-- To null nothing can be appended: alone the failed step leaves the variable as it is, and in a
chain the steps behind it find what the step before it has left. -/
theorem failures_to_append :
    let m : Moment := ⟨.epoch, fun _ => ""⟩
    let args : Fields Json := [("name", .str "n")]
    let step (a : Address) : Step := ⟨.absolute a, args⟩
    let session : Session := ⟨"s", ⟨[], ⟨[("n", .null)], []⟩⟩, .new .root⟩
    let s := office.runStep none m (step ⟨0, [2]⟩) session ()
    let i : Input Unit := .plain "chain 0.1 \x7b\"name\": \"n\"\x7d -> 0.2 \x7b\"name\": \"n\"\x7d"
    let start := (office.transcript "s" []).session
    let after := (office.answer i start).session
    (s.record.success = false ∧
      s.session = { session with state := ⟨[s.record], ⟨[("n", .null)], []⟩⟩ }) ∧
    ∃ o r, (office.answer i start).response = .outcome o ∧ o.steps[1]? = some r ∧
      r.error = some ("execution failed: append_to_var failed: " ++
        "cannot append to a null variable") ∧
      ∃ s w w' w'', StepsRun office none m [step ⟨0, [1]⟩] start () (o.steps.take 1) s w ∧
        StepsRun office none m [] { s with state := ⟨s.state.log ++ [r], s.state.work⟩ } w'
          (o.steps.drop 2) { after with nav := start.nav } w'' := by
  intro m args step session s i start after
  have hbuiltin : office.handlers = .builtin [] none ⟨"m", defaultTemperature, none⟩ := rfl
  obtain ⟨hstep, hline⟩ := office.failed_steps_are_atomic hbuiltin
  have hfailed : s.record.success = false := by decide +kernel
  refine ⟨⟨hfailed, hstep none m _ session () hfailed⟩, ?_⟩
  have hd : Directive.ofLine? i.line = none := by decide
  have hparse : Line.parse i.line = .ok (.chain [step ⟨0, [1]⟩, step ⟨0, [2]⟩]) := by
    decide +kernel
  obtain ⟨o, hresponse, hatomic⟩ := hline "s" [] i _ hd hparse
  have ho : o = (office.execute none m (.chain [step ⟨0, [1]⟩, step ⟨0, [2]⟩]) start ()).outcome :=
    Response.outcome.inj (hresponse.symm.trans (office.answer_command start hd hparse).1)
  have hlength : o.steps.length = 2 := by
    rw [ho]
    decide +kernel
  obtain ⟨r, hr⟩ : ∃ r, o.steps[1]? = some r := ⟨_, List.getElem?_eq_getElem (by omega)⟩
  have herror : (o.steps[1]?.bind (·.error)) = some ("execution failed: append_to_var failed: " ++
      "cannot append to a null variable") := by
    rw [ho]
    decide +kernel
  have hnone : o.steps[1]?.map (·.success) = some false := by
    rw [ho]
    decide +kernel
  rw [hr] at herror hnone
  have hbehind := hatomic 1 r hr (Option.some.inj hnone)
  rw [hlength] at hbehind
  exact ⟨o, r, hresponse, hr, herror, hbehind⟩

end Engine

end ActionTree
