import ActionTree.Proofs.Engine.Transcript

/-!
# What a record says of its step

A step ends in one of four ways, found out in this order: its address has no node, its arguments
refer to an output that is not there, its node is a menu, or the handler of its node is called. The
rules of `StepRule` say for each of them what is recorded and what is left of the workspace and the
world. They are stated for any world at all, so a rule that leaves the world as it was calls no
handler, and one that leaves the world of a call makes that call once.

* `Engine.stepRule_iff`: a step ends as the rules say and in no other way.
* `Record.Coherent`: what the fields of a record say of each other.
* `StepsRun`: steps that all run, one after the other.
* `Engine.runSteps_ran`: a line runs as many of its steps as it has records.
* `Engine.execute_rule`: every record of a line accounts for its step.
* `Engine.records_account_for_steps`: so does every record in the log of a shell.
-/

namespace ActionTree

/-- The kind of a reference that cannot be used. -/
def ReferenceError.kind : ReferenceError → FailureKind
  | .unknownStep .. => .unknownStep
  | .failedStep _ => .failedStep

/-- The record of a step that succeeds where a handler would see `c`. -/
def Call.succeeded (c : Call) (args output : Json) : Record where
  index := c.log.length + 1
  address := c.address
  success := true
  output := output
  error := none
  kind := none
  args := args
  recordedAt := c.moment.time

/-- The record of a step that fails where a handler would see `c`. -/
def Call.failed (c : Call) (args : Json) (kind : FailureKind) (message : String) : Record where
  index := c.log.length + 1
  address := c.address
  success := false
  output := .null
  error := some message
  kind := some kind
  args := args
  recordedAt := c.moment.time

namespace Record

/-- What the fields of a record say of each other: a step has an error, and a kind of failure, if
and only if it failed, and a failed step has no output. -/
structure Coherent (r : Record) : Prop where
  success_iff_error : r.success = true ↔ r.error = none
  success_iff_kind : r.success = true ↔ r.kind = none
  output_of_failure : r.success = false → r.output = .null

end Record

/-- How far a step gets. -/
inductive StepCase where
  | noNode
  | badReference
  | menu
  | call
  deriving DecidableEq

/-- How a step ends where a handler would see `c`: its case, its record, and the workspace and the
world it leaves. -/
inductive StepRule {σ : Type} (e : Engine σ) (signal : Option (Signal σ)) (step : Step) (c : Call)
    (w : σ) : StepCase → Record → Workspace → σ → Prop
  | noNode (hnode : e.space.resolve? c.address = none) :
      StepRule e signal step c w .noNode
        (c.failed (.obj step.rawArgs) .addressNotFound ("address not found: " ++ c.address.text))
        c.work w
  | badReference {node : Node} {r : ReferenceError}
      (hnode : e.space.resolve? c.address = some node)
      (hargs : step.template.resolve c.log = .error r) :
      StepRule e signal step c w .badReference
        (c.failed (.obj step.rawArgs) r.kind ("substitution failed: " ++ r.message)) c.work w
  | menu {node : Node} {args : Json} {m : Menu}
      (hnode : e.space.resolve? c.address = some node)
      (hargs : step.template.resolve c.log = .ok args) (hmenu : node.handler = none)
      (hm : e.space.menu? c.address = some m) :
      StepRule e signal step c w .menu (c.succeeded args m.toJson) c.work w
  | unregistered {node : Node} {args : Json} {id : String}
      (hnode : e.space.resolve? c.address = some node)
      (hargs : step.template.resolve c.log = .ok args) (hid : node.handler = some id)
      (hget : e.handlers.get? id = none) :
      StepRule e signal step c w .call
        (c.failed args .execution ("execution failed: no handler registered for '" ++ id ++ "'"))
        c.work w
  | dropped {node : Node} {args : Json} {id : String} {h : Handler σ} {s : Signal σ}
      {work : Workspace} {w' : σ}
      (hnode : e.space.resolve? c.address = some node)
      (hargs : step.template.resolve c.log = .ok args) (hid : node.handler = some id)
      (hget : e.handlers.get? id = some h) (hsignal : signal = some s)
      (hwait : h.interrupt args c w = some (work, w')) (hfired : s.fired w' = true) :
      StepRule e signal step c w .call
        (c.failed args .cancelled "cancelled before completion") work w'
  | answered {node : Node} {args output : Json} {id : String} {h : Handler σ}
      {work : Workspace} {w' : σ}
      (hnode : e.space.resolve? c.address = some node)
      (hargs : step.template.resolve c.log = .ok args) (hid : node.handler = some id)
      (hget : e.handlers.get? id = some h)
      (hkept : ∀ s, signal = some s → ∀ dropped, h.interrupt args c w = some dropped →
        s.fired dropped.2 = false)
      (hended : h.invoke args c w = ⟨.ok output, work, w'⟩) :
      StepRule e signal step c w .call (c.succeeded args output) work w'
  | refused {node : Node} {args : Json} {err : ExecutionError} {id : String} {h : Handler σ}
      {work : Workspace} {w' : σ}
      (hnode : e.space.resolve? c.address = some node)
      (hargs : step.template.resolve c.log = .ok args) (hid : node.handler = some id)
      (hget : e.handlers.get? id = some h)
      (hkept : ∀ s, signal = some s → ∀ dropped, h.interrupt args c w = some dropped →
        s.fired dropped.2 = false)
      (hended : h.invoke args c w = ⟨.error err, work, w'⟩) :
      StepRule e signal step c w .call
        (c.failed args .execution ("execution failed: " ++ err.message)) work w'

namespace StepRule

variable {σ : Type} {e : Engine σ} {signal : Option (Signal σ)} {step : Step} {c : Call} {w : σ}
  {k : StepCase} {r : Record} {work : Workspace} {w' : σ}

theorem address_eq (h : StepRule e signal step c w k r work w') : r.address = c.address := by
  cases h <;> rfl

theorem coherent (h : StepRule e signal step c w k r work w') : r.Coherent := by
  cases h <;> constructor <;> simp [Call.succeeded, Call.failed]

/-- The output of a menu is the menu, never null. -/
theorem output_ne_null_of_menu (h : StepRule e signal step c w .menu r work w') :
    r.output ≠ .null := by
  cases h
  simp [Call.succeeded, Menu.toJson]

end StepRule

namespace Engine

variable {σ : Type} (e : Engine σ) (signal : Option (Signal σ)) (moment : Moment)

/-! ## One step -/

/-- What a handler would see of a session in a step. -/
def seenBy (step : Step) (session : Session) : Call :=
  callOf session (step.target.at_ session.nav.cursor) moment

/-- The case of a step where a handler would see `c`. -/
def stepCase (step : Step) (c : Call) : StepCase :=
  match e.space.resolve? c.address, step.template.resolve c.log with
  | none, _ => .noNode
  | some _, .error _ => .badReference
  | some node, .ok _ => if node.isMenu then .menu else .call

/-- A call is dropped, or the signal of its line has not fired where its handler waits. -/
theorem dropped_or_kept (h : Handler σ) (args : Json) (c : Call) (w : σ) :
    (∃ s dropped, signal = some s ∧ h.interrupt args c w = some dropped ∧
        s.fired dropped.2 = true) ∨
      ∀ s, signal = some s → ∀ dropped, h.interrupt args c w = some dropped →
        s.fired dropped.2 = false := by
  by_cases hd : ∃ s dropped, signal = some s ∧ h.interrupt args c w = some dropped ∧
      s.fired dropped.2 = true
  · exact .inl hd
  · refine .inr fun s hs dropped hdropped => ?_
    rw [← Bool.not_eq_true]
    exact fun hfired => hd ⟨s, dropped, hs, hdropped, hfired⟩

/-- One of the rules applies to every step. -/
theorem exists_stepRule (step : Step) (c : Call) (w : σ) :
    ∃ k r work w', StepRule e signal step c w k r work w' := by
  -- The cases follow the step: its node, its references, its handler, the signal, the answer.
  cases hnode : e.space.resolve? c.address with
  | none => exact ⟨_, _, _, _, .noNode hnode⟩
  | some node =>
  cases hargs : step.template.resolve c.log with
  | error r => exact ⟨_, _, _, _, .badReference hnode hargs⟩
  | ok args =>
  cases hid : node.handler with
  | none =>
    obtain ⟨m, hm⟩ := Space.exists_menu?_of_resolve? hnode
    exact ⟨_, _, _, _, .menu hnode hargs hid hm⟩
  | some id =>
  cases hget : e.handlers.get? id with
  | none => exact ⟨_, _, _, _, .unregistered hnode hargs hid hget⟩
  | some h =>
  rcases dropped_or_kept signal h args c w with ⟨s, dropped, hsignal, hwait, hfired⟩ | hkept
  · exact ⟨_, _, _, _, .dropped hnode hargs hid hget hsignal hwait hfired⟩
  · cases hended : h.invoke args c w with
    | mk result work w' =>
    cases result with
    | ok output => exact ⟨_, _, _, _, .answered hnode hargs hid hget hkept hended⟩
    | error err => exact ⟨_, _, _, _, .refused hnode hargs hid hget hkept hended⟩

section Attempt

variable {step : Step} {session : Session} {w : σ} {node : Node} {args : Json} {id : String}

theorem attemptIn_of_noNode
    (hnode : e.space.resolve? (seenBy moment step session).address = none) :
    e.attemptIn signal moment step session w =
      ⟨.obj step.rawArgs, .error (.addressNotFound (seenBy moment step session).address.text),
        session.state.work, w, none⟩ := by
  have hresolve : e.space.resolve? (step.target.at_ session.nav.cursor) = none := hnode
  simp only [attemptIn, attempt, hresolve]
  rfl

theorem attemptIn_of_badReference {r : ReferenceError}
    (hnode : e.space.resolve? (seenBy moment step session).address = some node)
    (hargs : step.template.resolve session.state.log = .error r) :
    e.attemptIn signal moment step session w =
      ⟨.obj step.rawArgs, .error (.reference r), session.state.work, w,
        some (seenBy moment step session).address⟩ := by
  have hresolve : e.space.resolve? (step.target.at_ session.nav.cursor) = some node := hnode
  simp only [attemptIn, attempt, hresolve, hargs]
  rfl

theorem attemptIn_of_menu
    (hnode : e.space.resolve? (seenBy moment step session).address = some node)
    (hargs : step.template.resolve session.state.log = .ok args) (hmenu : node.handler = none) :
    e.attemptIn signal moment step session w =
      ⟨args, .ok (e.menuJson (seenBy moment step session).address), session.state.work, w,
        some (seenBy moment step session).address⟩ := by
  have hresolve : e.space.resolve? (step.target.at_ session.nav.cursor) = some node := hnode
  have haddress : node.address = step.target.at_ session.nav.cursor :=
    Space.address_of_resolve? hnode
  simp only [attemptIn, attempt, hresolve, hargs, hmenu, haddress]
  rfl

theorem attemptIn_of_handler
    (hnode : e.space.resolve? (seenBy moment step session).address = some node)
    (hargs : step.template.resolve session.state.log = .ok args) (hid : node.handler = some id) :
    e.attemptIn signal moment step session w =
      let ended := e.dispatch signal id args (seenBy moment step session) w
      ⟨args, ended.1, ended.2.1, ended.2.2, some (seenBy moment step session).address⟩ := by
  have hresolve : e.space.resolve? (step.target.at_ session.nav.cursor) = some node := hnode
  have haddress : node.address = step.target.at_ session.nav.cursor :=
    Space.address_of_resolve? hnode
  simp only [attemptIn, attempt, hresolve, hargs, hid, haddress]
  rfl

end Attempt

/-- A call that is not dropped ends as its handler ends it. -/
theorem dispatch_of_kept {id : String} {h : Handler σ} {args : Json} {c : Call} {w : σ}
    (hget : e.handlers.get? id = some h)
    (hkept : ∀ s, signal = some s → ∀ dropped, h.interrupt args c w = some dropped →
      s.fired dropped.2 = false) :
    e.dispatch signal id args c w =
      ((h.invoke args c w).result.mapError .execution, (h.invoke args c w).work,
        (h.invoke args c w).world) := by
  have hinterruption : e.interruption? signal id args c w = none := by
    cases signal with
    | none => rfl
    | some s => simpa [interruption?, Registry.interrupt, hget] using hkept s rfl
  simp only [dispatch, hinterruption, Registry.invoke, hget]

theorem dispatch_of_dropped {id : String} {h : Handler σ} {args : Json} {c : Call} {w : σ}
    {s : Signal σ} {work : Workspace} {w' : σ} (hget : e.handlers.get? id = some h)
    (hsignal : signal = some s) (hwait : h.interrupt args c w = some (work, w'))
    (hfired : s.fired w' = true) :
    e.dispatch signal id args c w = (.error .cancelled, work, w') := by
  have hinterruption : e.interruption? signal id args c w = some (work, w') := by
    simp [interruption?, hsignal, Registry.interrupt, hget, hwait, hfired]
  simp only [dispatch, hinterruption]

theorem dispatch_of_unregistered {id : String} (hget : e.handlers.get? id = none) (args : Json)
    (c : Call) (w : σ) :
    e.dispatch signal id args c w = (.error (.execution (.unknownHandler id)), c.work, w) := by
  have hinterruption : e.interruption? signal id args c w = none := by
    cases signal <;> simp [interruption?, Registry.interrupt, hget]
  simp only [dispatch, hinterruption, Registry.invoke, hget]
  rfl

/-- What a rule says of a step is what the step does. -/
theorem eq_of_stepRule {step : Step} {session : Session} {w : σ} {k : StepCase} {r : Record}
    {work : Workspace} {w' : σ}
    (h : StepRule e signal step (seenBy moment step session) w k r work w') :
    k = e.stepCase step (seenBy moment step session) ∧
      r = (e.runStep signal moment step session w).record ∧
      work = (e.runStep signal moment step session w).session.state.work ∧
      w' = (e.runStep signal moment step session w).world := by
  rw [runStep_session, runStep_record, runStep_world]
  cases h with
  | noNode hnode =>
    rw [e.attemptIn_of_noNode signal moment hnode]
    exact ⟨by simp [stepCase, hnode], rfl, rfl, rfl⟩
  | badReference hnode hargs =>
    rename_i r
    rw [e.attemptIn_of_badReference signal moment hnode hargs]
    cases r <;> exact ⟨by simp [stepCase, hnode, hargs], rfl, rfl, rfl⟩
  | menu hnode hargs hmenu hm =>
    rw [e.attemptIn_of_menu signal moment hnode hargs hmenu, menuJson, hm]
    exact ⟨by simp [stepCase, hnode, hargs, Node.isMenu, hmenu], rfl, rfl, rfl⟩
  | unregistered hnode hargs hid hget =>
    rw [e.attemptIn_of_handler signal moment hnode hargs hid,
      e.dispatch_of_unregistered signal hget]
    exact ⟨by simp [stepCase, hnode, hargs, Node.isMenu, hid], rfl, rfl, rfl⟩
  | dropped hnode hargs hid hget hsignal hwait hfired =>
    rw [e.attemptIn_of_handler signal moment hnode hargs hid,
      e.dispatch_of_dropped signal hget hsignal hwait hfired]
    exact ⟨by simp [stepCase, hnode, hargs, Node.isMenu, hid], rfl, rfl, rfl⟩
  | answered hnode hargs hid hget hkept hended =>
    rw [e.attemptIn_of_handler signal moment hnode hargs hid, e.dispatch_of_kept signal hget hkept,
      hended]
    exact ⟨by simp [stepCase, hnode, hargs, Node.isMenu, hid], rfl, rfl, rfl⟩
  | refused hnode hargs hid hget hkept hended =>
    rw [e.attemptIn_of_handler signal moment hnode hargs hid, e.dispatch_of_kept signal hget hkept,
      hended]
    exact ⟨by simp [stepCase, hnode, hargs, Node.isMenu, hid], rfl, rfl, rfl⟩

/-- A step ends as one of the rules says. -/
theorem runStep_rule (step : Step) (session : Session) (w : σ) :
    let s := e.runStep signal moment step session w
    StepRule e signal step (seenBy moment step session) w
      (e.stepCase step (seenBy moment step session)) s.record s.session.state.work s.world := by
  obtain ⟨k, r, work, w', h⟩ := e.exists_stepRule signal step (seenBy moment step session) w
  obtain ⟨rfl, rfl, rfl, rfl⟩ := e.eq_of_stepRule signal moment h
  exact h

/-- The rules describe a step and no other one. -/
theorem stepRule_iff {step : Step} {session : Session} {w : σ} {k : StepCase} {r : Record}
    {work : Workspace} {w' : σ} :
    StepRule e signal step (seenBy moment step session) w k r work w' ↔
      k = e.stepCase step (seenBy moment step session) ∧
        r = (e.runStep signal moment step session w).record ∧
        work = (e.runStep signal moment step session w).session.state.work ∧
        w' = (e.runStep signal moment step session w).world := by
  refine ⟨e.eq_of_stepRule signal moment, ?_⟩
  rintro ⟨rfl, rfl, rfl, rfl⟩
  exact e.runStep_rule signal moment step session w

end Engine

/-! ## Steps that run -/

/-- Steps that all run, one after the other, none of them with the signal seen before it: where
they start, their records, and the session and the world that they leave. -/
inductive StepsRun {σ : Type} (e : Engine σ) (signal : Option (Signal σ)) (moment : Moment) :
    List Step → Session → σ → List Record → Session → σ → Prop
  | nil (session : Session) (w : σ) : StepsRun e signal moment [] session w [] session w
  | cons {step : Step} {rest : List Step} {session : Session} {w : σ} {s : Engine.Stepped σ}
      {rs : List Record} {session' : Session} {w' : σ}
      (hpoll : (Engine.poll signal w).1 = false)
      (hstep : s = e.runStep signal moment step session (Engine.poll signal w).2)
      (hrest : StepsRun e signal moment rest s.session s.world rs session' w') :
      StepsRun e signal moment (step :: rest) session w (s.record :: rs) session' w'

namespace StepsRun

variable {σ : Type} {e : Engine σ} {signal : Option (Signal σ)} {moment : Moment}

theorem length_eq {steps : List Step} {session session' : Session} {w w' : σ} {rs : List Record}
    (h : StepsRun e signal moment steps session w rs session' w') :
    rs.length = steps.length := by
  induction h with
  | nil => rfl
  | cons _ _ _ ih => rw [List.length_cons, List.length_cons, ih]

/-- Steps that run leave one thing only. -/
theorem unique {steps : List Step} {session s₁ s₂ : Session} {w w₁ w₂ : σ} {rs₁ rs₂ : List Record}
    (h₁ : StepsRun e signal moment steps session w rs₁ s₁ w₁)
    (h₂ : StepsRun e signal moment steps session w rs₂ s₂ w₂) :
    rs₁ = rs₂ ∧ s₁ = s₂ ∧ w₁ = w₂ := by
  induction h₁ generalizing rs₂ with
  | nil =>
    cases h₂
    exact ⟨rfl, rfl, rfl⟩
  | cons _ hstep _ ih =>
    cases h₂ with
    | cons _ hstep' hrest =>
      subst hstep hstep'
      obtain ⟨rfl, rfl, rfl⟩ := ih hrest
      exact ⟨rfl, rfl, rfl⟩

/-- A record of steps that all run is that of its step, between the steps before and behind it. -/
theorem exists_around {steps : List Step} {session session' : Session} {w w' : σ}
    {rs : List Record} (h : StepsRun e signal moment steps session w rs session' w') {j : Nat}
    {r : Record} (hr : rs[j]? = some r) :
    ∃ step s₁ w₁, steps[j]? = some step ∧
      StepsRun e signal moment (steps.take j) session w (rs.take j) s₁ w₁ ∧
      (Engine.poll signal w₁).1 = false ∧
      let s := e.runStep signal moment step s₁ (Engine.poll signal w₁).2
      s.record = r ∧
        StepsRun e signal moment (steps.drop (j + 1)) s.session s.world (rs.drop (j + 1)) session'
          w' := by
  induction h generalizing j with
  | nil => cases hr
  | @cons step rest session w s rs session' w' hpoll hstep hrest ih =>
    cases j with
    | zero =>
      cases hr
      subst hstep
      exact ⟨step, session, w, rfl, .nil session w, hpoll, rfl, hrest⟩
    | succ j =>
      obtain ⟨next, s₁, w₁, hnext, hbefore, hseen, hrecord, hbehind⟩ := ih hr
      exact ⟨next, s₁, w₁, hnext, .cons hpoll hstep hbefore, hseen, hrecord, hbehind⟩

/-- Steps that run add their records to the log and leave a workspace; all else of the session
stays. -/
theorem session_eq {steps : List Step} {session session' : Session} {w w' : σ} {rs : List Record}
    (h : StepsRun e signal moment steps session w rs session' w') :
    session' =
      { session with state := ⟨session.state.log ++ rs, session'.state.work⟩ } := by
  induction h with
  | nil => rw [List.append_nil]
  | cons _ hstep _ ih =>
    subst hstep
    rw [ih]
    simp only [Engine.runStep_id, Engine.runStep_nav, Engine.runStep_log, List.append_assoc,
      List.singleton_append]

end StepsRun

namespace Engine

variable {σ : Type} (e : Engine σ) (signal : Option (Signal σ)) (moment : Moment)

/-- A line runs as many of its steps as it has records. -/
theorem runSteps_ran (steps : List Step) (session : Session) (w : σ) :
    let r := e.runSteps signal moment steps session w
    ∃ w', StepsRun e signal moment (steps.take r.records.length) session w r.records r.session
      w' := by
  induction steps generalizing session w with
  | nil => exact ⟨w, .nil session w⟩
  | cons step rest ih =>
    simp only [runSteps_cons]
    cases hpoll : (poll signal w).1 with
    | true => exact ⟨w, .nil session w⟩
    | false =>
      simp only [Bool.false_eq_true, ↓reduceIte]
      split
      · obtain ⟨w', hrest⟩ := ih (e.runStep signal moment step session (poll signal w).2).session
          (e.runStep signal moment step session (poll signal w).2).world
        exact ⟨w', .cons hpoll rfl hrest⟩
      · exact ⟨_, .cons hpoll rfl (.nil _ _)⟩

/-- A command leaves the session that its steps leave, but for the path. -/
theorem execute_ran (command : Command) (session : Session) (w : σ) :
    let x := e.execute signal moment command session w
    ∃ w', StepsRun e signal moment (command.steps.take x.outcome.steps.length) session w
      x.outcome.steps { x.session with nav := session.nav } w' := by
  have hsession : { (e.execute signal moment command session w).session with nav := session.nav } =
      (e.runSteps signal moment command.steps session w).session := by
    rw [← e.runSteps_nav signal moment command.steps session w]
    rfl
  intro x
  rw [hsession]
  exact e.runSteps_ran signal moment command.steps session w

/-! ## All records -/

/-- A record of a command ends its step as one of the rules says. The step is run in the session and
the world that the steps before it leave. -/
theorem execute_rule {command : Command} {session : Session} {w : σ} {k : Nat} {r : Record}
    (h : (e.execute signal moment command session w).outcome.steps[k]? = some r) :
    ∃ step rs s w' case work w'', command.steps[k]? = some step ∧
      StepsRun e signal moment (command.steps.take k) session w rs s w' ∧
      s.state.log = (e.execute signal moment command session w).session.state.log.take
        (session.state.log.length + k) ∧
      (poll signal w').1 = false ∧
      StepRule e signal step
        ⟨session.id, step.target.at_ session.nav.cursor, s.state.log, s.state.work, moment⟩
        (poll signal w').2 case r work w'' := by
  have hk := (List.getElem?_eq_some_iff.1 h).1
  obtain ⟨_, hran⟩ := e.execute_ran signal moment command session w
  obtain ⟨step, s, w', hstep, hbefore, hpoll, rfl, -⟩ := hran.exists_around h
  rw [List.getElem?_take_of_lt hk] at hstep
  rw [List.take_take, Nat.min_eq_left (Nat.le_of_lt hk)] at hbefore
  have hs := hbefore.session_eq
  have hlog := congrArg (·.state.log) hs
  have hseen : seenBy moment step s =
      ⟨session.id, step.target.at_ session.nav.cursor, s.state.log, s.state.work, moment⟩ := by
    rw [seenBy, callOf, congrArg Session.nav hs, congrArg Session.id hs]
  have hrule := e.runStep_rule signal moment step s (poll signal w').2
  rw [hseen] at hrule
  refine ⟨step, _, s, w', _, _, _, hstep, hbefore, hlog.trans ?_, hpoll, hrule⟩
  rw [execute_log, List.take_length_add_append]

/-- The record at a place in the log of a shell accounts for a step of a command that one of its
lines is: the steps before it have run from what the line found, the step was run at the cursor
before the line, in the session and the world that they left, and it ended as one of the rules
says. -/
def AccountsFor (id : String) (inputs : List (Input σ)) (place : Nat) (r : Record) : Prop :=
  ∃ earlier input later command k step rs s w case work w',
    inputs = earlier ++ input :: later ∧
    Directive.ofLine? input.line = none ∧ Line.parse input.line = .ok command ∧
    command.steps[k]? = some step ∧
    let start := (e.transcript id earlier).session
    place = start.state.log.length + k ∧
    StepsRun e input.signal input.moment (command.steps.take k) start input.world rs s w ∧
    s.state.log = (e.transcript id inputs).session.state.log.take place ∧
    (poll input.signal w).1 = false ∧
    StepRule e input.signal step
      ⟨id, step.target.at_ start.nav.cursor, s.state.log, s.state.work, input.moment⟩
      (poll input.signal w).2 case r work w'

/-- A line more leaves the accounts of the records before it as they are. -/
theorem AccountsFor.concat {id : String} {inputs : List (Input σ)} {place : Nat} {r : Record}
    (h : e.AccountsFor id inputs place r)
    (hplace : place ≤ (e.transcript id inputs).session.state.log.length) (i : Input σ) :
    e.AccountsFor id (inputs ++ [i]) place r := by
  obtain ⟨earlier, input, later, command, k, step, rs, s, w, case, work, w', rfl, hd, hline, hstep,
    hk, hran, hlog, hrule⟩ := h
  refine ⟨earlier, input, later ++ [i], command, k, step, rs, s, w, case, work, w', by simp, hd,
    hline, hstep, hk, hran, ?_, hrule⟩
  rw [transcript_concat, goOn_session, answer_log, List.take_append_of_le_length hplace]
  exact hlog

/-- Every record in the log of a shell accounts for a step of one of its lines. -/
theorem accountsFor_of_log {id : String} {inputs : List (Input σ)} {place : Nat} {r : Record}
    (h : (e.transcript id inputs).session.state.log[place]? = some r) :
    e.AccountsFor id inputs place r := by
  induction inputs using List.reverseRecOn with
  | nil => simp [newSession, Session.new, State.new] at h
  | append_singleton inputs i ih =>
    rw [transcript_concat, goOn_session, answer_log] at h
    rcases Nat.lt_or_ge place (e.transcript id inputs).session.state.log.length with hold | hnew
    · rw [List.getElem?_append_left hold] at h
      exact (ih h).concat e (Nat.le_of_lt hold) i
    rw [List.getElem?_append_right hnew] at h
    -- Only a command adds records.
    rcases line_cases i.line with ⟨d, hd⟩ | ⟨hd, ⟨err, hline⟩ | ⟨command, hline⟩⟩
    · rw [(e.answer_directive _ hd).1] at h
      simp at h
    · rw [(e.answer_rejected _ hd hline).1] at h
      simp [Response.records] at h
    · obtain ⟨hresponse, hsession⟩ := e.answer_command (e.transcript id inputs).session hd hline
      rw [hresponse] at h
      obtain ⟨step, rs, s, w, case, work, w', hstep, hran, hlog, hrule⟩ :=
        e.execute_rule i.signal i.moment h
      rw [Nat.add_sub_of_le hnew] at hlog
      rw [transcript_id] at hrule
      refine ⟨inputs, i, [], command, _, step, rs, s, w, case, work, w', rfl, hd, hline, hstep,
        (Nat.add_sub_of_le hnew).symm, hran, ?_, hrule⟩
      rw [transcript_concat, goOn_session, hsession]
      exact hlog

/-- **Records tell the truth.** A step run in any session adds one record, at the address that its
target means at the cursor, and ends in exactly one of the four ways as its rule says; a menu is
never null. Every record in the log of a shell carries its place, agrees with itself and accounts
for a step of one of the lines. -/
theorem records_account_for_steps :
    (∀ (signal : Option (Signal σ)) (moment : Moment) (step : Step) (session : Session) (w : σ),
      let s := e.runStep signal moment step session w
      let c := seenBy moment step session
      s.session = { session with
          state := ⟨session.state.log ++ [s.record], s.session.state.work⟩ } ∧
        s.record.address = c.address ∧
        (c.address = match step.target with
          | .absolute a => a
          | .relative n => session.nav.cursor.child n) ∧
        ∃ k, (k = .menu → s.record.output ≠ .null) ∧
          ∀ k' r work w', StepRule e signal step c w k' r work w' ↔
            k' = k ∧ r = s.record ∧ work = s.session.state.work ∧ w' = s.world) ∧
      ∀ (id : String) (inputs : List (Input σ)) (place : Nat) (r : Record),
        (e.transcript id inputs).session.state.log[place]? = some r →
          r.index = place + 1 ∧ r.Coherent ∧ e.AccountsFor id inputs place r := by
  refine ⟨fun signal moment step session w => ?_, fun id inputs place r h => ?_⟩
  · intro s c
    have hrule := e.runStep_rule signal moment step session w
    refine ⟨?_, hrule.address_eq, ?_, e.stepCase step c, ?_, fun k' r work w' =>
      e.stepRule_iff signal moment⟩
    · simp only [s, runStep_session]
    · cases htarget : step.target <;> simp only [c, seenBy, callOf, Target.at_, htarget]
    · intro hk
      exact StepRule.output_ne_null_of_menu (hk ▸ hrule)
  · obtain ⟨hplace, rfl⟩ := List.getElem?_eq_some_iff.1 h
    obtain ⟨_, _, _, _, _, _, _, _, _, _, _, _, -, -, -, -, -, -, -, -, hrule⟩ :=
      e.accountsFor_of_log h
    exact ⟨e.transcript_numbered id inputs place hplace, hrule.coherent, e.accountsFor_of_log h⟩

/-- The last record of these lines is that of a menu behind an action. -/
theorem record_of_menu_in_chain :
    let inputs : List (Input Unit) := [.plain "jump 0.1", .plain "chain 0.1 -> 0"]
    let r : Record := .ofOutput 3 .root (.obj []) (sample.menuJson .root) .epoch
    (sample.transcript "s" inputs).session.state.log[2]? = some r ∧
      r.index = 2 + 1 ∧ r.Coherent ∧ sample.AccountsFor "s" inputs 2 r := by
  intro inputs r
  have h : (sample.transcript "s" inputs).session.state.log[2]? = some r := by decide +kernel
  exact ⟨h, sample.records_account_for_steps.2 "s" inputs 2 r h⟩

end Engine

end ActionTree
