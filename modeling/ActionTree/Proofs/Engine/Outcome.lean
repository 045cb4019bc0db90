import ActionTree.Proofs.Engine.Account

/-!
# What an outcome says of its line

A line runs its steps in order until all have run, the signal is seen before one of them, or a
record does not let it go on. So its records are those of a beginning of its steps, and they and
the two flags of the outcome say where the line ended and why.

* `Engine.runSteps_ends`: the three ends of a line.
* `Engine.outcome_accounts_for_steps`: what the records and the flags of an outcome say.
* `Engine.Reached`, `Engine.Reached.invariant`: the sessions that a shell passes, and the rule for
  what all of them have.
-/

namespace ActionTree

namespace Record

/-- A cancelled step did not succeed. -/
theorem Coherent.success_of_isCancelled {r : Record} (h : r.Coherent)
    (hcancelled : Engine.isCancelled r = true) : r.success = false := by
  rw [← Bool.not_eq_true, h.success_iff_kind]
  intro hkind
  simp [Engine.isCancelled, hkind] at hcancelled

end Record

namespace Engine

variable {σ : Type} (e : Engine σ) (signal : Option (Signal σ)) (moment : Moment)

/-- The records of a line agree with themselves. -/
theorem runSteps_coherent {steps : List Step} {session : Session} {w : σ} {r : Record}
    (h : r ∈ (e.runSteps signal moment steps session w).records) : r.Coherent := by
  obtain ⟨k, hk⟩ := List.getElem?_of_mem h
  obtain ⟨_, hran⟩ := e.runSteps_ran signal moment steps session w
  obtain ⟨step, s₁, w₁, -, -, -, rfl, -⟩ := hran.exists_around hk
  exact (e.runStep_rule signal moment step s₁ _).coherent

/-- A line ends behind all of its steps, at a signal that it sees before one of them, or behind a
record that does not let it go on. All records but that one let it go on. -/
theorem runSteps_ends (steps : List Step) (session : Session) (w : σ) :
    let r := e.runSteps signal moment steps session w
    ((∀ x ∈ r.records, e.goesOn x = true) ∧
        (r.records.length = steps.length ∧ r.cancelled = false ∨
          r.records.length < steps.length ∧ r.cancelled = true)) ∨
      ∃ before last, r.records = before ++ [last] ∧ r.records.length ≤ steps.length ∧
        (∀ x ∈ before, e.goesOn x = true) ∧ e.goesOn last = false ∧
        r.cancelled = isCancelled last := by
  induction steps generalizing session w with
  | nil => simp
  | cons step rest ih =>
    simp only [runSteps_cons]
    split
    · simp
    generalize e.runStep signal moment step session (poll signal w).2 = s
    split
    · rename_i hgoes
      rcases ih s.session s.world with ⟨hall, hend⟩ | ⟨before, last, hrecords, hle, hbefore, hends⟩
      · exact .inl ⟨List.forall_mem_cons.2 ⟨hgoes, hall⟩, by simpa using hend⟩
      · exact .inr ⟨s.record :: before, last, by simp [hrecords], by simpa using hle,
          List.forall_mem_cons.2 ⟨hgoes, hbefore⟩, hends⟩
    · rename_i hends
      exact .inr ⟨[], s.record, rfl, by simp, by simp, by simpa using hends, rfl⟩

section Ends

variable (steps : List Step) (session : Session) (w : σ)

theorem runSteps_length_le :
    (e.runSteps signal moment steps session w).records.length ≤ steps.length := by
  rcases e.runSteps_ends signal moment steps session w with ⟨-, ⟨h, -⟩ | ⟨h, -⟩⟩ | ⟨_, _, -, h, -⟩
  · exact Nat.le_of_eq h
  · exact Nat.le_of_lt h
  · exact h

/-- Where failures end lines, all records but the last one are of successes. -/
theorem success_of_mem_dropLast (hoptions : e.options.continueOnError = false) {r : Record}
    (hr : r ∈ (e.runSteps signal moment steps session w).records.dropLast) :
    r.success = true := by
  have hgoes : e.goesOn r = true := by
    rcases e.runSteps_ends signal moment steps session w with
      ⟨hall, -⟩ | ⟨before, last, hrecords, -, hbefore, -⟩
    · exact hall r (List.dropLast_subset _ hr)
    · rw [hrecords, List.dropLast_concat] at hr
      exact hbefore r hr
  simp only [goesOn, hoptions, Bool.or_false, Bool.and_eq_true] at hgoes
  exact hgoes.2

/-- Steps are left out for the signal, or behind a failure where failures end lines. -/
theorem runSteps_left_out
    (h : (e.runSteps signal moment steps session w).records.length < steps.length) :
    (e.runSteps signal moment steps session w).cancelled = true ∨
      e.options.continueOnError = false ∧
        ∃ r, (e.runSteps signal moment steps session w).records.getLast? = some r ∧
          r.success = false := by
  rcases e.runSteps_ends signal moment steps session w with
    ⟨-, ⟨hlength, -⟩ | ⟨-, hcancelled⟩⟩ | ⟨before, last, hrecords, -, -, hends, hcancelled⟩
  · omega
  · exact .inl hcancelled
  rw [hcancelled, hrecords]
  simp only [goesOn, Bool.and_eq_false_iff, Bool.not_eq_false', Bool.or_eq_false_iff] at hends
  rcases hends with hlast | ⟨hfailed, hoptions⟩
  · exact .inl hlast
  · exact .inr ⟨hoptions, last, List.getLast?_concat, hfailed⟩

/-- A line whose records are all of successes ran all of its steps unless it was cancelled. -/
theorem cancelled_eq_false_iff
    (h : ∀ r ∈ (e.runSteps signal moment steps session w).records, r.success = true) :
    (e.runSteps signal moment steps session w).cancelled = false ↔
      (e.runSteps signal moment steps session w).records.length = steps.length := by
  rcases e.runSteps_ends signal moment steps session w with
    ⟨-, ⟨hlength, hcancelled⟩ | ⟨hlength, hcancelled⟩⟩ | ⟨before, last, hrecords, -, -, hends, -⟩
  · simp [hlength, hcancelled]
  · simp [Nat.ne_of_lt hlength, hcancelled]
  -- A record that ends a line is not one of a success.
  · have hlast : last ∈ (e.runSteps signal moment steps session w).records := by simp [hrecords]
    have hcoherent := e.runSteps_coherent signal moment hlast
    have hsuccess := h last hlast
    simp only [goesOn, hsuccess, Bool.true_or, Bool.and_true, Bool.not_eq_false'] at hends
    rw [hcoherent.success_of_isCancelled hends] at hsuccess
    cases hsuccess

end Ends

/-- **What an outcome says of its line.** Its records are those of a beginning of the steps, run one
after the other. Steps are left out for the signal, or behind a failure where failures end lines.
The outcome is a success if and only if all steps have run and succeeded. -/
theorem outcome_accounts_for_steps (command : Command) (session : Session) (w : σ) :
    let x := e.execute signal moment command session w
    let n := x.outcome.steps.length
    let k := command.steps.length
    n ≤ k ∧
    (∃ w', StepsRun e signal moment (command.steps.take n) session w x.outcome.steps
      { x.session with nav := session.nav } w') ∧
    (e.options.continueOnError = false →
      (∀ r ∈ x.outcome.steps.dropLast, r.success = true) ∧
      (n < k → x.outcome.cancelled = true ∨
        ∃ r, x.outcome.steps.getLast? = some r ∧ r.success = false)) ∧
    (e.options.continueOnError = true → n < k → x.outcome.cancelled = true) ∧
    (x.outcome.success = true ↔ n = k ∧ ∀ r ∈ x.outcome.steps, r.success = true) ∧
    (x.outcome.cancelled = true → x.outcome.success = false) := by
  intro x n k
  have hleft := e.runSteps_left_out signal moment command.steps session w
  have hall := e.cancelled_eq_false_iff signal moment command.steps session w
  have hsuccess : x.outcome.success = true ↔
      x.outcome.cancelled = false ∧ ∀ r ∈ x.outcome.steps, r.success = true := by
    simp [x, execute]
  -- The command sets the path; all else of the session is as its steps leave it.
  have hsession : { x.session with nav := session.nav } =
      (e.runSteps signal moment command.steps session w).session := by
    rw [← e.runSteps_nav signal moment command.steps session w]
    rfl
  refine ⟨e.runSteps_length_le signal moment _ _ _, ?_, fun hoptions => ⟨?_, fun hlt => ?_⟩,
    fun hoptions hlt => ?_, ?_, fun hcancelled => ?_⟩
  · obtain ⟨w', hran⟩ := e.runSteps_ran signal moment command.steps session w
    exact ⟨w', hsession ▸ hran⟩
  · exact fun r hr => e.success_of_mem_dropLast signal moment _ _ _ hoptions hr
  · exact (hleft hlt).imp_right And.right
  · exact (hleft hlt).resolve_right fun h => by simp [hoptions] at h
  · rw [hsuccess]
    exact and_congr_left hall
  · rw [← Bool.not_eq_true, hsuccess, hcancelled]
    simp

/-- A failure ends this chain before its last step, and so the chain is no success. -/
theorem chain_ended_by_failure :
    let jump (a : Address) : Step := ⟨.absolute a, []⟩
    let command : Command := .chain [jump ⟨0, [1]⟩, jump ⟨0, [2]⟩, jump .root]
    let o := (sample.execute none ⟨.epoch, fun _ => ""⟩ command (sample.newSession "s") ()).outcome
    o.steps.length = 2 ∧ o.steps.map (·.success) = [true, false] ∧ o.success = false ∧
      (o.cancelled = true ∨ ∃ r, o.steps.getLast? = some r ∧ r.success = false) := by
  intro jump command o
  obtain ⟨-, -, hoff, -, hsuccess, -⟩ := sample.outcome_accounts_for_steps none
    ⟨.epoch, fun _ => ""⟩ command (sample.newSession "s") ()
  have hlength : o.steps.length = 2 := rfl
  refine ⟨hlength, rfl, ?_, (hoff rfl).2 (show 2 < 3 by decide)⟩
  rw [← Bool.not_eq_true, hsuccess]
  exact fun h => absurd (hlength.symm.trans h.1) (by decide)

end Engine

/-! ## The sessions that a shell passes

Between the steps of a line the session is in no transcript. `Engine.Reached` has these sessions
too: those behind lines, and those behind more steps, each with a signal, a moment and a world of
its own. What a new session has, steps keep and changes of the path keep, all of them have. -/

namespace Engine

variable {σ : Type} {e : Engine σ}

/-- A session that a shell passes: it is behind some lines, or behind a step in one of these. -/
inductive Reached (e : Engine σ) (id : String) : Session → Prop
  | line (inputs : List (Input σ)) : Reached e id (e.transcript id inputs).session
  | step {session : Session} (h : Reached e id session) (signal : Option (Signal σ))
      (moment : Moment) (step : Step) (w : σ) :
      Reached e id (e.runStep signal moment step session w).session

/-- What a new session has, every step keeps and no change of the path touches, every session that a
shell passes has. -/
theorem Reached.invariant {P : Session → Prop} {id : String} {session : Session}
    (h : e.Reached id session) (hnew : P (e.newSession id))
    (hstep : ∀ signal moment step session w, P session →
      P (e.runStep signal moment step session w).session)
    (hnav : ∀ session nav, P session → P { session with nav := nav }) : P session := by
  induction h with
  | step _ signal moment step w ih => exact hstep signal moment step _ w ih
  | line inputs =>
    refine e.transcript_invariant hnew (fun i session h => ?_) inputs
    rcases line_cases i.line with ⟨d, hd⟩ | ⟨hd, ⟨err, hline⟩ | ⟨c, hline⟩⟩
    · rw [(e.answer_directive session hd).2]
      cases d
      case back => exact hnav session _ h
      all_goals exact h
    · rw [(e.answer_rejected session hd hline).2]
      exact h
    · rw [(e.answer_command session hd hline).2]
      exact hnav _ _ (e.runSteps_invariant i.signal i.moment
        (fun step _ session w => hstep i.signal i.moment step session w) h)

end Engine

theorem StepsRun.reached {σ : Type} {e : Engine σ} {signal : Option (Signal σ)} {moment : Moment}
    {steps : List Step} {session session' : Session} {w w' : σ} {rs : List Record} {id : String}
    (h : StepsRun e signal moment steps session w rs session' w')
    (hsession : e.Reached id session) : e.Reached id session' := by
  induction h with
  | nil => exact hsession
  | cons _ hstep _ ih => exact ih (hstep ▸ hsession.step signal moment _ _)

end ActionTree
