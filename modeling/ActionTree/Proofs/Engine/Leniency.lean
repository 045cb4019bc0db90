import ActionTree.Proofs.Engine.Composition

/-!
# Strict and lenient engines

A strict engine ends a line at its first failure, a lenient one goes on. Without a signal this is
all that tells them apart: both run the same steps up to the first failure, and what the lenient one
runs behind it is added at the end of the line.

* `upToFailure`: records up to the first failure among them.
* `Engine.runSteps_strict`: the steps of a line under both engines.
* `Engine.steps_strict`, `Engine.execute_strict`: a command under both engines.
* `Engine.lenience_adds_steps_behind_failure`: all of it, also for two moments.
-/

namespace ActionTree

/-! ## Records up to a failure -/

/-- The records up to the first failure, with it. -/
def upToFailure : List Record → List Record
  | [] => []
  | r :: rest => if r.success then r :: upToFailure rest else [r]

theorem upToFailure_cons_of_success {r : Record} (h : r.success = true) (rest : List Record) :
    upToFailure (r :: rest) = r :: upToFailure rest := if_pos h

theorem upToFailure_cons_of_failure {r : Record} (h : r.success = false) (rest : List Record) :
    upToFailure (r :: rest) = [r] := by
  rw [upToFailure, h]
  rfl

theorem upToFailure_prefix (rs : List Record) : upToFailure rs <+: rs := by
  induction rs with
  | nil => exact List.prefix_rfl
  | cons r rest ih =>
    cases h : r.success with
    | true =>
      rw [upToFailure_cons_of_success h]
      exact (List.prefix_cons_inj r).2 ih
    | false =>
      rw [upToFailure_cons_of_failure h]
      exact ⟨rest, rfl⟩

/-- Behind successes the first failure is the last record that counts. -/
theorem upToFailure_append {good : List Record} (hgood : ∀ r ∈ good, r.success = true)
    {bad : Record} (hbad : bad.success = false) (rest : List Record) :
    upToFailure (good ++ bad :: rest) = good ++ [bad] := by
  induction good with
  | nil => exact upToFailure_cons_of_failure hbad rest
  | cons r good ih =>
    obtain ⟨hr, hgood⟩ := List.forall_mem_cons.1 hgood
    rw [List.cons_append, upToFailure_cons_of_success hr, ih hgood, List.cons_append]

theorem upToFailure_map_untimed (rs : List Record) :
    upToFailure (rs.map Record.untimed) = (upToFailure rs).map Record.untimed := by
  induction rs with
  | nil => rfl
  | cons r rest ih =>
    cases h : r.success with
    | true =>
      rw [List.map_cons, upToFailure_cons_of_success h, upToFailure_cons_of_success (by exact h),
        ih, List.map_cons]
    | false =>
      rw [List.map_cons, upToFailure_cons_of_failure h, upToFailure_cons_of_failure (by exact h)]
      rfl

/-- An outcome without the times of its records. -/
def Outcome.untimed (o : Outcome) : Outcome := { o with steps := o.steps.map Record.untimed }

namespace Engine

variable {σ : Type} (e : Engine σ) (moment : Moment)

/-! ## Two engines -/

/-- The engine with other options. -/
def withOptions (o : EngineOptions) : Engine σ := { e with options := o }

/-- The engine that ends a line at its first failure. -/
def strict : Engine σ := e.withOptions ⟨false⟩

/-- The engine that goes on behind failures. -/
def lenient : Engine σ := e.withOptions ⟨true⟩

/-- A step does not look at the options. -/
theorem runStep_withOptions (o : EngineOptions) (signal : Option (Signal σ)) (step : Step)
    (session : Session) (w : σ) :
    (e.withOptions o).runStep signal moment step session w =
      e.runStep signal moment step session w := rfl

theorem Timeless.withOptions {e : Engine σ} (h : e.Timeless) (o : EngineOptions) :
    (e.withOptions o).Timeless := h

/-- A strict line by its first step. -/
theorem runSteps_strict_cons (step : Step) (rest : List Step) (session : Session) (w : σ) :
    e.strict.runSteps none moment (step :: rest) session w =
      let s := e.runStep none moment step session w
      if s.record.success then
        let r := e.strict.runSteps none moment rest s.session s.world
        { r with records := s.record :: r.records, resolved := r.resolved.or s.resolved }
      else ⟨[s.record], false, s.resolved, s.session, s.world⟩ := by
  rw [runSteps_cons, poll, if_neg (by simp), strict, runStep_withOptions]
  simp [goesOn, withOptions]

/-- A lenient line by its first step. -/
theorem runSteps_lenient_cons (step : Step) (rest : List Step) (session : Session) (w : σ) :
    e.lenient.runSteps none moment (step :: rest) session w =
      let s := e.runStep none moment step session w
      let r := e.lenient.runSteps none moment rest s.session s.world
      { r with records := s.record :: r.records, resolved := r.resolved.or s.resolved } := by
  rw [runSteps_cons, poll, if_neg (by simp), lenient, runStep_withOptions]
  simp [goesOn, withOptions]

/-- A strict line has the records of the lenient one up to the first failure; without a failure it
leaves all that the lenient one leaves. -/
theorem runSteps_strict (steps : List Step) (session : Session) (w : σ) :
    let r := e.strict.runSteps none moment steps session w
    let r' := e.lenient.runSteps none moment steps session w
    r.records = upToFailure r'.records ∧ ((∀ x ∈ r.records, x.success = true) → r = r') := by
  induction steps generalizing session w with
  | nil => exact ⟨rfl, fun _ => rfl⟩
  | cons step rest ih =>
    simp only [runSteps_strict_cons, runSteps_lenient_cons]
    obtain ⟨hrecords, hsame⟩ := ih (e.runStep none moment step session w).session
      (e.runStep none moment step session w).world
    -- Both lines take the same step and part only behind a failure.
    cases hs : (e.runStep none moment step session w).record.success with
    | true =>
      rw [if_pos rfl]
      refine ⟨?_, fun hall => ?_⟩
      · rw [upToFailure_cons_of_success hs, hrecords]
      · rw [hsame (List.forall_mem_cons.1 hall).2]
    | false =>
      rw [if_neg (by simp)]
      refine ⟨(upToFailure_cons_of_failure hs _).symm, fun hall => ?_⟩
      rw [List.forall_mem_singleton, hs] at hall
      cases hall

/-- The steps of a strict command are those of the lenient one up to the first failure. -/
theorem steps_strict (command : Command) (session : Session) (w : σ) :
    (e.strict.execute none moment command session w).outcome.steps =
      upToFailure (e.lenient.execute none moment command session w).outcome.steps :=
  (e.runSteps_strict moment command.steps session w).1

/-- A strict command without a failure is the lenient one. -/
theorem execute_strict (command : Command) (session : Session) (w : σ)
    (h : ∀ r ∈ (e.strict.execute none moment command session w).outcome.steps,
      r.success = true) :
    e.strict.execute none moment command session w =
      e.lenient.execute none moment command session w := by
  have hsame := (e.runSteps_strict moment command.steps session w).2 h
  rw [execute_eq, execute_eq, hsame]

/-! ## Two moments -/

/-- The outcome of a command at two moments. -/
theorem outcome_untimed {e : Engine σ} (h : e.Timeless) (moment moment' : Moment)
    {session session' : Session} (hs : session.untimed = session'.untimed) (command : Command)
    (w : σ) :
    (e.execute none moment command session w).outcome.untimed =
      (e.execute none moment' command session' w).outcome.untimed := by
  obtain ⟨hsteps, hsuccess, hsession, -⟩ := execute_untimed moment moment' h hs command w
  have hcursor : ∀ (m : Moment) (s : Session),
      (e.execute none m command s w).outcome.cursor =
        (e.execute none m command s w).session.untimed.nav.cursor := fun m s => rfl
  have hcancelled : ∀ (m : Moment) (s : Session),
      (e.execute none m command s w).outcome.cancelled = false := fun m s => by rw [execute_eq]
  simp only [Outcome.untimed, hsteps, hsuccess, hcursor, hcancelled, hsession]

/-- **Leniency adds steps behind a failure.** Without a signal the steps that a strict engine
records are a beginning of those that the lenient one records from the same session; they end with
the first failure, if there is one. Without a failure both leave the same. At two moments only the
times of records differ, if no handler looks at them. -/
theorem lenience_adds_steps_behind_failure :
    (∀ (moment : Moment) (command : Command) (session : Session) (w : σ),
      let off := e.strict.execute none moment command session w
      let on := e.lenient.execute none moment command session w
      off.outcome.steps <+: on.outcome.steps ∧
        (∀ good bad rest, on.outcome.steps = good ++ bad :: rest →
          (∀ r ∈ good, r.success = true) → bad.success = false →
            off.outcome.steps = good ++ [bad]) ∧
        ((∀ r ∈ off.outcome.steps, r.success = true) → off = on)) ∧
    (e.Timeless → ∀ (moment moment' : Moment) (command : Command) (session session' : Session)
      (w : σ), session.untimed = session'.untimed →
      let off := e.strict.execute none moment command session w
      let on := e.lenient.execute none moment' command session' w
      off.outcome.untimed.steps <+: on.outcome.untimed.steps ∧
        (∀ good bad rest, on.outcome.untimed.steps = good ++ bad :: rest →
          (∀ r ∈ good, r.success = true) → bad.success = false →
            off.outcome.untimed.steps = good ++ [bad]) ∧
        ((∀ r ∈ off.outcome.steps, r.success = true) →
          off.outcome.untimed = on.outcome.untimed ∧
            off.session.untimed = on.session.untimed ∧ off.world = on.world)) := by
  refine ⟨fun moment command session w => ⟨?_, fun good bad rest hsteps hgood hbad => ?_, ?_⟩,
    fun htimeless moment moment' command session session' w hs => ?_⟩
  · rw [steps_strict]
    exact upToFailure_prefix _
  · rw [steps_strict, hsteps, upToFailure_append hgood hbad]
  · exact e.execute_strict moment command session w
  · intro off on
    have hon := outcome_untimed (htimeless.withOptions ⟨true⟩) moment moment' hs command w
    have hoff : off.outcome.untimed.steps = upToFailure on.outcome.untimed.steps := by
      calc off.outcome.untimed.steps
          = (upToFailure (e.lenient.execute none moment command session w).outcome.steps).map
              Record.untimed := congrArg (List.map Record.untimed) (e.steps_strict moment ..)
        _ = upToFailure (e.lenient.execute none moment command session w).outcome.untimed.steps :=
            (upToFailure_map_untimed _).symm
        _ = upToFailure on.outcome.untimed.steps := congrArg (fun o => upToFailure o.steps) hon
    refine ⟨hoff ▸ upToFailure_prefix _, fun good bad rest hsteps hgood hbad => ?_, fun hall => ?_⟩
    · rw [hoff, hsteps, upToFailure_append hgood hbad]
    · have hsame : off = e.lenient.execute none moment command session w :=
        e.execute_strict moment command session w hall
      obtain ⟨-, -, hsession, hworld⟩ :=
        execute_untimed moment moment' (htimeless.withOptions ⟨true⟩) hs command w
      rw [hsame]
      exact ⟨hon, hsession, hworld⟩

/-- Of a jump, a jump to a node without a handler and one more jump, the strict engine records the
first two, at any moment. A jump alone leaves the same under both engines. -/
theorem three_jumps_strict_and_lenient :
    let moment : Moment := ⟨.epoch, fun _ => ""⟩
    let moment' : Moment := ⟨.dayAfter .epoch, fun _ => "later"⟩
    let jump (a : Address) : Step := ⟨.absolute a, []⟩
    let command : Command := .chain [jump ⟨0, [1]⟩, jump ⟨0, [2]⟩, jump .root]
    let start := sample.newSession "s"
    let off := sample.strict.execute none moment command start ()
    let on := sample.lenient.execute none moment' command start ()
    on.outcome.steps.map (·.success) = [true, false, true] ∧
      off.outcome.untimed.steps = on.outcome.untimed.steps.take 2 ∧
      (sample.strict.execute none moment (.jump (jump ⟨0, [1]⟩)) start ()).session =
        (sample.lenient.execute none moment (.jump (jump ⟨0, [1]⟩)) start ()).session := by
  intro moment moment' jump command start off on
  obtain ⟨hsame, huntimed⟩ := sample.lenience_adds_steps_behind_failure
  obtain ⟨-, hends, -⟩ := huntimed timeless_sample moment moment' command start start () rfl
  obtain ⟨-, -, hsingle⟩ := hsame moment (.jump (jump ⟨0, [1]⟩)) start ()
  refine ⟨rfl, ?_, congrArg (·.session) (hsingle ?_)⟩
  · exact hends (on.outcome.untimed.steps.take 1) _ _ rfl
      (List.forall_mem_singleton.2 rfl) rfl
  · exact List.forall_mem_singleton.2 rfl

end Engine

end ActionTree
