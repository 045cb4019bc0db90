import ActionTree.Engine.Basic

/-!
# What a step leaves

A started step leaves one record, which carries the next index, and a session that differs from the
one it ran in by that record and by the workspace. A line is such steps one after the other, so it
leaves its records at the end of the log, in order, and keeps the path.

* `State.append_of_index`: a record with the next index is always added.
* `Engine.runStep_session`, `Engine.runStep_append`: what one step adds to the log.
* `Engine.runSteps_cons`: a line by its first step; `Engine.goesOn` says whether the next one runs.
* `Engine.runSteps_log`, `Engine.execute_log`: what a line adds to the log.
-/

namespace ActionTree

/-- The records of a log carry their places in it, counted from 1. -/
def Numbered (log : List Record) : Prop := ∀ i (h : i < log.length), log[i].index = i + 1

theorem numbered_nil : Numbered [] := fun _ h => absurd h (Nat.not_lt_zero _)

theorem Numbered.concat {log : List Record} {r : Record} (hlog : Numbered log)
    (hr : r.index = log.length + 1) : Numbered (log ++ [r]) := by
  intro i h
  rw [List.getElem_append]
  split
  · exact hlog i _
  · have : i = log.length := by
      simp only [List.length_append, List.length_singleton] at h
      omega
    simp [this, hr]

/-- A record is at the place that its index says. -/
theorem Numbered.getElem?_of_mem {log : List Record} {r : Record} (hlog : Numbered log)
    (hr : r ∈ log) : log[r.index - 1]? = some r := by
  obtain ⟨i, hi, rfl⟩ := List.mem_iff_getElem.1 hr
  rw [hlog i hi, Nat.add_sub_cancel]
  exact List.getElem?_eq_getElem hi

/-- A record with the next index is always added. -/
theorem State.append_of_index {s : State} {r : Record} (h : r.index = s.nextIndex) :
    s.append r = .ok { s with log := s.log ++ [r] } := if_pos h

namespace Engine

variable {σ : Type} (e : Engine σ) (signal : Option (Signal σ)) (moment : Moment)

@[simp] theorem Attempt.record_index (a : Attempt σ) (index : Nat) (address : Address)
    (now : Instant) : (a.record index address now).index = index := by
  unfold Attempt.record
  split <;> rfl

/-! ## One step -/

/-- The attempt that a step makes in a session. -/
def attemptIn (step : Step) (session : Session) (w : σ) : Attempt σ :=
  e.attempt signal moment step (step.target.at_ session.nav.cursor) session w

theorem runStep_record (step : Step) (session : Session) (w : σ) :
    (e.runStep signal moment step session w).record =
      (e.attemptIn signal moment step session w).record session.state.nextIndex
        (step.target.at_ session.nav.cursor) moment.time := rfl

@[simp] theorem runStep_world (step : Step) (session : Session) (w : σ) :
    (e.runStep signal moment step session w).world =
      (e.attemptIn signal moment step session w).world := rfl

@[simp] theorem runStep_record_index (step : Step) (session : Session) (w : σ) :
    (e.runStep signal moment step session w).record.index = session.state.log.length + 1 := by
  rw [runStep_record, Attempt.record_index, State.nextIndex]

/-- A step adds its record to the log and leaves a workspace; all else of the session stays. -/
theorem runStep_session (step : Step) (session : Session) (w : σ) :
    (e.runStep signal moment step session w).session =
      { session with
        state := ⟨session.state.log ++ [(e.runStep signal moment step session w).record],
          (e.attemptIn signal moment step session w).work⟩ } := by
  have h : ∀ work : Workspace,
      (State.mk session.state.log work).append (e.runStep signal moment step session w).record =
        .ok ⟨session.state.log ++ [(e.runStep signal moment step session w).record], work⟩ :=
    fun _ => State.append_of_index (e.runStep_record_index signal moment step session w)
  conv => lhs; unfold runStep
  simp only
  rw [← attemptIn, ← runStep_record, h]

@[simp] theorem runStep_log (step : Step) (session : Session) (w : σ) :
    (e.runStep signal moment step session w).session.state.log =
      session.state.log ++ [(e.runStep signal moment step session w).record] := by
  rw [runStep_session]

@[simp] theorem runStep_nav (step : Step) (session : Session) (w : σ) :
    (e.runStep signal moment step session w).session.nav = session.nav := by
  rw [runStep_session]

@[simp] theorem runStep_id (step : Step) (session : Session) (w : σ) :
    (e.runStep signal moment step session w).session.id = session.id := by
  rw [runStep_session]

/-- The record of a step is never out of sequence. -/
theorem runStep_append (step : Step) (session : Session) (w : σ) :
    let s := e.runStep signal moment step session w
    (State.mk session.state.log s.session.state.work).append s.record = .ok s.session.state := by
  intro s
  have h := State.append_of_index (s := ⟨session.state.log, s.session.state.work⟩)
    (e.runStep_record_index signal moment step session w)
  rw [h]
  simp only [s]
  rw [runStep_session]

theorem runStep_numbered {step : Step} {session : Session} {w : σ}
    (h : Numbered session.state.log) :
    Numbered (e.runStep signal moment step session w).session.state.log := by
  rw [runStep_log]
  exact h.concat (e.runStep_record_index signal moment step session w)

/-! ## The steps of a line -/

/-- Does the next step of a line run after one with this record? -/
def goesOn (r : Record) : Bool := !isCancelled r && (r.success || e.options.continueOnError)

/-- A line with no steps left. -/
@[simp] theorem runSteps_nil (session : Session) (w : σ) :
    e.runSteps signal moment [] session w = ⟨[], false, none, session, w⟩ := rfl

/-- A line by its first step: cancelled before it, ended by it, or going on behind it. -/
theorem runSteps_cons (step : Step) (rest : List Step) (session : Session) (w : σ) :
    e.runSteps signal moment (step :: rest) session w =
      if (poll signal w).1 then ⟨[], true, none, session, (poll signal w).2⟩
      else
        let s := e.runStep signal moment step session (poll signal w).2
        if e.goesOn s.record then
          let r := e.runSteps signal moment rest s.session s.world
          { r with records := s.record :: r.records, resolved := r.resolved.or s.resolved }
        else ⟨[s.record], isCancelled s.record, s.resolved, s.session, s.world⟩ := by
  rw [runSteps]
  simp only [goesOn]
  split
  · rfl
  · generalize e.runStep signal moment step session (poll signal w).2 = s
    by_cases hc : isCancelled s.record = true
    · simp [hc]
    · by_cases hs : s.record.success = true <;> by_cases ho : e.options.continueOnError = true <;>
        simp [hc, hs, ho]

/-- A line of one step. -/
theorem runSteps_single (step : Step) (session : Session) (w : σ) :
    e.runSteps signal moment [step] session w =
      if (poll signal w).1 then ⟨[], true, none, session, (poll signal w).2⟩
      else
        let s := e.runStep signal moment step session (poll signal w).2
        ⟨[s.record], isCancelled s.record, s.resolved, s.session, s.world⟩ := by
  rw [runSteps_cons]
  split
  · rfl
  simp only [runSteps_nil, Option.none_or]
  split
  · rename_i hgoes
    simp only [goesOn, Bool.and_eq_true, Bool.not_eq_true'] at hgoes
    rw [hgoes.1]
  · rfl

/-- What every step keeps a line keeps. -/
theorem runSteps_invariant {P : Session → Prop} {steps : List Step}
    (hstep : ∀ step ∈ steps, ∀ session w, P session →
      P (e.runStep signal moment step session w).session)
    {session : Session} {w : σ} (h : P session) :
    P (e.runSteps signal moment steps session w).session := by
  induction steps generalizing session w with
  | nil => exact h
  | cons step rest ih =>
    have hfirst := hstep step (by simp) session (poll signal w).2 h
    rw [runSteps_cons]
    split
    · exact h
    simp only
    split
    · exact ih (fun s hs => hstep s (List.mem_cons_of_mem _ hs)) hfirst
    · exact hfirst

@[simp] theorem runSteps_nav (steps : List Step) (session : Session) (w : σ) :
    (e.runSteps signal moment steps session w).session.nav = session.nav :=
  e.runSteps_invariant signal moment (P := fun s => s.nav = session.nav)
    (fun step _ s w h => (e.runStep_nav signal moment step s w).trans h) rfl

@[simp] theorem runSteps_id (steps : List Step) (session : Session) (w : σ) :
    (e.runSteps signal moment steps session w).session.id = session.id :=
  e.runSteps_invariant signal moment (P := fun s => s.id = session.id)
    (fun step _ s w h => (e.runStep_id signal moment step s w).trans h) rfl

theorem runSteps_numbered {steps : List Step} {session : Session} {w : σ}
    (h : Numbered session.state.log) :
    Numbered (e.runSteps signal moment steps session w).session.state.log :=
  e.runSteps_invariant signal moment (P := fun s => Numbered s.state.log)
    (fun _ _ _ _ h => e.runStep_numbered signal moment h) h

/-- A line adds its records to the log, in order. -/
@[simp] theorem runSteps_log (steps : List Step) (session : Session) (w : σ) :
    (e.runSteps signal moment steps session w).session.state.log =
      session.state.log ++ (e.runSteps signal moment steps session w).records := by
  induction steps generalizing session w with
  | nil => simp
  | cons step rest ih =>
    rw [runSteps_cons]
    split
    · simp
    simp only
    split
    · simp [ih]
    · simp

/-! ## A whole command -/

/-- A command adds the records of its outcome to the log, in order. -/
@[simp] theorem execute_log (command : Command) (session : Session) (w : σ) :
    (e.execute signal moment command session w).session.state.log =
      session.state.log ++ (e.execute signal moment command session w).outcome.steps :=
  e.runSteps_log signal moment command.steps session w

@[simp] theorem execute_id (command : Command) (session : Session) (w : σ) :
    (e.execute signal moment command session w).session.id = session.id :=
  e.runSteps_id signal moment command.steps session w

theorem execute_numbered {command : Command} {session : Session} {w : σ}
    (h : Numbered session.state.log) :
    Numbered (e.execute signal moment command session w).session.state.log :=
  e.runSteps_numbered signal moment h

end Engine

end ActionTree
