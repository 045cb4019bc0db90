import ActionTree.Proofs.Engine.Outcome

/-!
# Lines that carry a signal

A signal that has fired stays fired. The engine looks at it before each step, and a call that waits
when it fires is dropped; so no step starts once the signal has fired, wherever that was, and what
was recorded before stays. A signal that never fires makes no difference.

* `Signal.Lasts`: a signal that has fired stays fired until the engine looks.
* `Signal.Idle`: a signal that does not fire, in worlds that a relation pairs with those of a line
  without it.
* `Engine.length_le_of_poll`: the steps of a line end where the engine finds the signal fired.
* `Engine.poll_of_goesOn`: a line whose records all let it go on ends there or behind its last step.
* `Engine.runSteps_of_idle`: a line with an idle signal and the same line without one.
* `Engine.signal_ends_line`: the whole account.
-/

namespace ActionTree

namespace Signal

variable {σ : Type} (s : Signal σ)

/-- Once the signal has fired, the engine finds it fired. -/
def Lasts : Prop := ∀ w, s.fired w = true → s.fired (s.pass w) = true

/-- The signal does not fire in the worlds that `R` pairs with others: neither where the engine
looks nor while a handler waits. What happens before the engine looks, and what handlers do in a
world and in its other one, keeps the pairs; no handler answers differently in the two. -/
structure Idle (e : Engine σ) (R : σ → σ → Prop) : Prop where
  fired : ∀ w w', R w w' → s.fired w = false
  pass : ∀ w w', R w w' → R (s.pass w) w'
  kept : ∀ id h, e.handlers.get? id = some h → ∀ args c w w', R w w' →
    ∀ dropped, h.interrupt args c w = some dropped → s.fired dropped.2 = false
  result : ∀ id h, e.handlers.get? id = some h → ∀ args c w w', R w w' →
    (h.invoke args c w).result = (h.invoke args c w').result
  work : ∀ id h, e.handlers.get? id = some h → ∀ args c w w', R w w' →
    (h.invoke args c w).work = (h.invoke args c w').work
  world : ∀ id h, e.handlers.get? id = some h → ∀ args c w w', R w w' →
    R (h.invoke args c w).world (h.invoke args c w').world

end Signal

/-- A step recorded as cancelled leaves the world with the signal of its line fired. -/
theorem StepRule.fired_of_isCancelled {σ : Type} {e : Engine σ} {signal : Option (Signal σ)}
    {step : Step} {c : Call} {w : σ} {k : StepCase} {r : Record} {work : Workspace} {w' : σ}
    (h : StepRule e signal step c w k r work w') (hr : Engine.isCancelled r = true) :
    ∃ s, signal = some s ∧ s.fired w' = true := by
  cases h with
  | dropped _ _ _ _ hsignal _ hfired => exact ⟨_, hsignal, hfired⟩
  | badReference =>
    rename_i r _ _
    cases r <;> cases hr
  | _ => cases hr

namespace Engine

variable {σ : Type} (e : Engine σ) (moment : Moment)

/-! ## Lines whose signal fires -/

section Fires

variable (signal : Option (Signal σ)) (steps : List Step) (session : Session) (w : σ)

/-- A line has no more steps than run before the engine finds the signal fired. -/
theorem length_le_of_poll {j : Nat} {rs : List Record} {s₁ : Session} {w₁ : σ}
    (h : StepsRun e signal moment (steps.take j) session w rs s₁ w₁)
    (hfired : (poll signal w₁).1 = true) :
    (e.runSteps signal moment steps session w).records.length ≤ j := by
  by_contra hlt
  obtain ⟨w', hran⟩ := e.runSteps_ran signal moment steps session w
  obtain ⟨_, s₂, w₂, -, hbefore, hseen, -⟩ :=
    hran.exists_around (List.getElem?_eq_getElem (Nat.lt_of_not_le hlt))
  rw [List.take_take, Nat.min_eq_left (by omega)] at hbefore
  obtain ⟨-, -, rfl⟩ := h.unique hbefore
  rw [hfired] at hseen
  cases hseen

/-- Behind steps whose records let their line go on it does go on. -/
theorem records_append_of_goesOn {j : Nat} {rs : List Record} {s₁ : Session} {w₁ : σ}
    (h : StepsRun e signal moment (steps.take j) session w rs s₁ w₁)
    (hgoes : ∀ r ∈ rs, e.goesOn r = true) :
    (e.runSteps signal moment steps session w).records =
      rs ++ (e.runSteps signal moment (steps.drop j) s₁ w₁).records := by
  conv => lhs; rw [← List.take_append_drop j steps]
  generalize steps.take j = first at h
  induction h with
  | nil => rfl
  | cons hpoll hstep _ ih =>
    obtain ⟨hfirst, hrest⟩ := List.forall_mem_cons.1 hgoes
    rw [List.cons_append, runSteps_cons, hpoll, ← hstep]
    simp only [Bool.false_eq_true, ↓reduceIte, hfirst, List.cons_append, List.cons.injEq, true_and]
    exact ih hrest

/-- Where steps are left although all records let the line go on, the engine found the signal
fired. -/
theorem poll_of_goesOn {s₁ : Session} {w₁ : σ}
    (h : StepsRun e signal moment
      (steps.take (e.runSteps signal moment steps session w).records.length) session w
      (e.runSteps signal moment steps session w).records s₁ w₁)
    (hgoes : ∀ r ∈ (e.runSteps signal moment steps session w).records, e.goesOn r = true)
    (hlt : (e.runSteps signal moment steps session w).records.length < steps.length) :
    (poll signal w₁).1 = true := by
  have hrecords := e.records_append_of_goesOn moment signal steps session w h hgoes
  rw [List.drop_eq_getElem_cons hlt, runSteps_cons] at hrecords
  rw [← Bool.not_eq_false]
  intro hunseen
  simp only [hunseen, Bool.false_eq_true, ↓reduceIte] at hrecords
  split at hrecords
  · simpa using congrArg List.length hrecords
  · simpa using congrArg List.length hrecords

/-- A record of a cancelled step is the last of its line. -/
theorem isLast_of_isCancelled {j : Nat} {r : Record}
    (hr : (e.runSteps signal moment steps session w).records[j]? = some r)
    (hcancelled : isCancelled r = true) :
    j + 1 = (e.runSteps signal moment steps session w).records.length := by
  have hends : e.goesOn r = false := by simp [goesOn, hcancelled]
  rcases e.runSteps_ends signal moment steps session w with
    ⟨hall, -⟩ | ⟨before, last, hrecords, -, hbefore, -⟩
  · rw [hall r (List.mem_of_getElem? hr)] at hends
    cases hends
  · rw [hrecords] at hr ⊢
    rcases Nat.lt_trichotomy j before.length with hlt | heq | hgt
    · rw [List.getElem?_append_left hlt] at hr
      rw [hbefore r (List.mem_of_getElem? hr)] at hends
      cases hends
    · simp [heq]
    · rw [List.getElem?_eq_none (by simpa using Nat.succ_le_of_lt hgt)] at hr
      cases hr

/-- Behind a cancelled step the signal has fired. -/
theorem fired_of_isCancelled {rs : List Record} {s₁ : Session} {w₁ : σ}
    (h : StepsRun e signal moment steps session w rs s₁ w₁) {r : Record}
    (hr : rs.getLast? = some r) (hcancelled : isCancelled r = true) :
    ∃ s, signal = some s ∧ s.fired w₁ = true := by
  rw [List.getLast?_eq_getElem?] at hr
  have hlength : rs.length - 1 + 1 = rs.length := by
    have := (List.getElem?_eq_some_iff.1 hr).1
    omega
  obtain ⟨step, s₂, w₂, -, -, -, rfl, hbehind⟩ := h.exists_around hr
  rw [hlength, h.length_eq, List.drop_length, ← h.length_eq, List.drop_length] at hbehind
  cases hbehind
  exact (e.runStep_rule signal moment step s₂ _).fired_of_isCancelled hcancelled

/-- The two ways in which a line is cancelled. -/
theorem cancelled_iff {s₁ : Session} {w₁ : σ}
    (h : StepsRun e signal moment
      (steps.take (e.runSteps signal moment steps session w).records.length) session w
      (e.runSteps signal moment steps session w).records s₁ w₁) :
    let x := e.runSteps signal moment steps session w
    x.cancelled = true ↔
      (∃ r, x.records.getLast? = some r ∧ isCancelled r = true) ∨
      x.records.length < steps.length ∧
        (∀ r ∈ x.records, r.success = true ∨ e.options.continueOnError = true) ∧
        (poll signal w₁).1 = true := by
  intro x
  rcases e.runSteps_ends signal moment steps session w with
    ⟨hgoes, hend⟩ | ⟨before, last, hrecords, -, -, hends, hcancelled⟩
  · have hnone : ¬∃ r, x.records.getLast? = some r ∧ isCancelled r = true := by
      rintro ⟨r, hr, hc⟩
      have := hgoes r (List.mem_of_getLast? hr)
      simp [goesOn, hc] at this
    have hall : ∀ r ∈ x.records, r.success = true ∨ e.options.continueOnError = true := by
      intro r hr
      have := hgoes r hr
      simp only [goesOn, Bool.and_eq_true, Bool.or_eq_true] at this
      exact this.2
    rcases hend with ⟨hlength, hcancelled⟩ | ⟨hlt, hcancelled⟩
    · simp [x, hcancelled, hnone, hlength]
    · have hfired := e.poll_of_goesOn moment signal steps session w h hgoes hlt
      simp only [x, hcancelled, true_iff]
      exact .inr ⟨hlt, hall, hfired⟩
  -- Where a record ends the line, no boundary behind it is looked at.
  · have hmem : last ∈ x.records := by simp [x, hrecords]
    have hlast : x.records.getLast? = some last := by simp [x, hrecords]
    rw [show x.cancelled = isCancelled last from hcancelled]
    constructor
    · exact fun hc => .inl ⟨last, hlast, hc⟩
    · rintro (⟨r, hr, hc⟩ | ⟨-, hall, -⟩)
      · rw [hlast] at hr
        exact Option.some.inj hr ▸ hc
      · simp only [goesOn, Bool.and_eq_false_iff, Bool.not_eq_false', Bool.or_eq_false_iff] at hends
        rcases hends with hc | ⟨hfailed, hoptions⟩
        · exact hc
        · simpa [hfailed, hoptions] using hall last hmem

end Fires

/-! ## Lines whose signal does not fire -/

section Idle

variable {e} {s : Signal σ} {R : σ → σ → Prop}

theorem dispatch_of_idle (h : s.Idle e R) {w w' : σ} (hw : R w w') (id : String) (args : Json)
    (c : Call) :
    let x := e.dispatch (some s) id args c w
    let y := e.dispatch none id args c w'
    x.1 = y.1 ∧ x.2.1 = y.2.1 ∧ R x.2.2 y.2.2 := by
  cases hget : e.handlers.get? id with
  | none =>
    rw [e.dispatch_of_unregistered _ hget, e.dispatch_of_unregistered _ hget]
    exact ⟨rfl, rfl, hw⟩
  | some handler =>
    have hkept : ∀ s', some s = some s' → ∀ dropped, handler.interrupt args c w = some dropped →
        s'.fired dropped.2 = false := by
      rintro s' ⟨⟩ dropped hdropped
      exact h.kept id handler hget args c w w' hw dropped hdropped
    rw [e.dispatch_of_kept _ hget hkept, e.dispatch_of_kept _ hget (by simp),
      h.result id handler hget args c w w' hw, h.work id handler hget args c w w' hw]
    exact ⟨rfl, rfl, h.world id handler hget args c w w' hw⟩

theorem attempt_of_idle (h : s.Idle e R) {w w' : σ} (hw : R w w') (step : Step)
    (address : Address) (session : Session) :
    let x := e.attempt (some s) moment step address session w
    let y := e.attempt none moment step address session w'
    { x with world := y.world } = y ∧ R x.world y.world := by
  unfold attempt
  split
  · exact ⟨rfl, hw⟩
  split
  · exact ⟨rfl, hw⟩
  split
  · exact ⟨rfl, hw⟩
  · rename_i node _ _ args _ _ id _
    obtain ⟨hresult, hwork, hworld⟩ :=
      dispatch_of_idle h hw id args (callOf session node.address moment)
    exact ⟨by simp only [hresult, hwork], hworld⟩

/-- A step with an idle signal and the same step without one. -/
theorem runStep_of_idle (h : s.Idle e R) {w w' : σ} (hw : R w w') (step : Step)
    (session : Session) :
    let x := e.runStep (some s) moment step session w
    let y := e.runStep none moment step session w'
    { x with world := y.world } = y ∧ R x.world y.world := by
  obtain ⟨hattempt, hworld⟩ :=
    attempt_of_idle moment h hw step (step.target.at_ session.nav.cursor) session
  refine ⟨?_, hworld⟩
  simp only [runStep]
  rw [← hattempt]
  rfl

/-- The steps of a line with an idle signal and of the same line without one. -/
theorem runSteps_of_idle (h : s.Idle e R) {w w' : σ} (hw : R w w') (steps : List Step)
    (session : Session) :
    let x := e.runSteps (some s) moment steps session w
    let y := e.runSteps none moment steps session w'
    { x with world := y.world } = y ∧ R x.world y.world := by
  induction steps generalizing session w w' with
  | nil => exact ⟨rfl, hw⟩
  | cons step rest ih =>
    have hpass := h.pass w w' hw
    have hseen : (poll (some s) w).1 = false := h.fired _ _ hpass
    have hstep := runStep_of_idle moment h hpass step session
    have hunseen : (poll none w').1 = false := rfl
    simp only [runSteps_cons, hseen, hunseen, Bool.false_eq_true, ↓reduceIte]
    -- Both lines take the same step; from here on only what it leaves counts.
    change let x := e.runStep (some s) moment step session (poll (some s) w).2
      let y := e.runStep none moment step session (poll none w').2
      { x with world := y.world } = y ∧ R x.world y.world at hstep
    generalize e.runStep (some s) moment step session (poll (some s) w).2 = x at hstep ⊢
    generalize e.runStep none moment step session (poll none w').2 = y at hstep ⊢
    obtain ⟨record, next, v, resolved⟩ := x
    obtain ⟨_, _, v', _⟩ := y
    obtain ⟨hx, hworld⟩ := hstep
    cases hx
    dsimp only at hworld ⊢
    split
    · obtain ⟨hrest, hend⟩ := ih hworld next
      refine ⟨?_, hend⟩
      rw [← hrest]
    · exact ⟨rfl, hworld⟩

/-- A command with an idle signal and the same command without one. -/
theorem execute_of_idle (h : s.Idle e R) {w w' : σ} (hw : R w w') (command : Command)
    (session : Session) :
    let x := e.execute (some s) moment command session w
    let y := e.execute none moment command session w'
    x.outcome = y.outcome ∧ x.session = y.session ∧ R x.world y.world := by
  obtain ⟨hrun, hworld⟩ := runSteps_of_idle moment h hw command.steps session
  simp only [execute]
  rw [← hrun]
  exact ⟨rfl, rfl, hworld⟩

end Idle

/-- **Lines that carry a signal.** The records of a line are those of a beginning of its steps, and
only the last of them may be of a cancelled step. No step starts once the signal has fired. A signal
that never fires is as good as none. -/
theorem signal_ends_line (s : Signal σ) (command : Command) (session : Session) (w : σ) :
    let x := e.execute (some s) moment command session w
    let n := x.outcome.steps.length
    x.session.state.log = session.state.log ++ x.outcome.steps ∧
    (∃ w₁, StepsRun e (some s) moment (command.steps.take n) session w x.outcome.steps
        { x.session with nav := session.nav } w₁ ∧
      (∀ j r, x.outcome.steps[j]? = some r → r.kind = some .cancelled →
        j + 1 = n ∧ s.fired w₁ = true) ∧
      (x.outcome.cancelled = true ↔
        (∃ r, x.outcome.steps.getLast? = some r ∧ r.kind = some .cancelled) ∨
        n < command.steps.length ∧
          (∀ r ∈ x.outcome.steps, r.success = true ∨ e.options.continueOnError = true) ∧
          s.fired (s.pass w₁) = true)) ∧
    (s.Lasts →
      (∀ j rs s₁ w₁, StepsRun e (some s) moment (command.steps.take j) session w rs s₁ w₁ →
        s.fired w₁ = true ∨ s.fired (s.pass w₁) = true → n ≤ j) ∧
      (s.fired w = true → x.outcome.steps = [] ∧ x.session = session ∧
        (command.steps ≠ [] → x.outcome.cancelled = true))) ∧
    ∀ R w', s.Idle e R → R w w' →
      let y := e.execute none moment command session w'
      x.outcome = y.outcome ∧ x.session = y.session ∧ R x.world y.world := by
  intro x n
  obtain ⟨w₁, hran⟩ := e.execute_ran (some s) moment command session w
  refine ⟨e.execute_log (some s) moment command session w, ⟨w₁, hran, ?_, ?_⟩, ?_, ?_⟩
  · intro j r hr hkind
    have hc : isCancelled r = true := by simp [isCancelled, hkind]
    have hlast := e.isLast_of_isCancelled moment (some s) command.steps session w hr hc
    have hr : (e.runSteps (some s) moment command.steps session w).records.getLast? = some r := by
      rw [List.getLast?_eq_getElem?, ← hlast]
      exact hr
    obtain ⟨_, hs, hfired⟩ := e.fired_of_isCancelled moment (some s) _ session w hran hr hc
    cases hs
    exact ⟨hlast, hfired⟩
  · have hiff := e.cancelled_iff moment (some s) command.steps session w hran
    simp only [isCancelled, beq_iff_eq] at hiff
    exact hiff
  · intro hlasts
    -- The poll in front of the next step sees the signal, so the line has no record of it.
    have hend : ∀ j rs s₁ w₁,
        StepsRun e (some s) moment (command.steps.take j) session w rs s₁ w₁ →
          s.fired w₁ = true ∨ s.fired (s.pass w₁) = true → n ≤ j := by
      intro j rs s₁ w₁ hbefore hfired
      exact e.length_le_of_poll moment (some s) command.steps session w hbefore
        (hfired.elim (hlasts w₁) id)
    refine ⟨hend, fun hfired => ?_⟩
    have hseen : (poll (some s) w).1 = true := hlasts w hfired
    simp only [x, execute]
    cases command.steps with
    | nil => simp
    | cons step rest => simp [runSteps_cons, hseen]
  · intro R w' hidle hw
    exact execute_of_idle moment hidle hw command session

/-- A menu over a handler that rings a bell and one that waits until the bell has rung. -/
def belfry : Engine Bool where
  space := ⟨[.plain ⟨0, [2]⟩ "Wait" (some "wait"), .plain ⟨0, [1]⟩ "Ring" (some "ring"),
    .plain .root "Start" none], [.root, ⟨0, [1]⟩, ⟨0, [2]⟩], [(.root, [⟨0, [1]⟩, ⟨0, [2]⟩])]⟩
  handlers := .ofHandlers [
    ⟨"ring", "", fun _ c _ => ⟨.ok .null, c.work, true⟩, fun _ _ _ => none⟩,
    ⟨"wait", "", fun _ c w => ⟨.ok .null, c.work, w⟩, fun _ c _ => some (c.work, true)⟩]
  options := ⟨true⟩

/-- The bell as a signal: behind a step that rings it no other one runs, a step that waits for it is
the last one of its line, and where it has rung before the line, no step runs. A bell that nobody
hears changes nothing. -/
theorem lines_under_a_bell :
    let moment : Moment := ⟨.epoch, fun _ => ""⟩
    let ring : Step := ⟨.absolute ⟨0, [1]⟩, []⟩
    let wait : Step := ⟨.absolute ⟨0, [2]⟩, []⟩
    let session := belfry.newSession "s"
    let line (heard : Bool → Bool) (steps : List Step) (w : Bool) :=
      belfry.execute (some ⟨heard, id⟩) moment (.chain steps) session w
    ((line id [ring, wait] false).outcome.steps.length ≤ 1 ∧
        (line id [ring, wait] false).outcome.cancelled = true) ∧
      (∃ r, (line id [wait, ring] false).outcome.steps[0]? = some r ∧
        r.kind = some .cancelled ∧ 0 + 1 = (line id [wait, ring] false).outcome.steps.length) ∧
      (line id [ring] true).session = session ∧
      (line (fun _ => false) [ring, wait] false).outcome =
        (belfry.execute none moment (.chain [ring, wait]) session false).outcome := by
  intro moment ring wait session line
  have hlasts : Signal.Lasts ⟨id, id⟩ := fun w h => h
  refine ⟨?_, ?_, ?_, ?_⟩
  · obtain ⟨-, -, hends, -⟩ :=
      belfry.signal_ends_line moment ⟨id, id⟩ (.chain [ring, wait]) session false
    have hran : StepsRun belfry (some ⟨id, id⟩) moment [ring] session false _ _ true :=
      .cons rfl rfl (.nil _ _)
    exact ⟨(hends hlasts).1 1 _ _ _ hran (.inl rfl), rfl⟩
  · obtain ⟨-, ⟨_, -, hlast, -⟩, -⟩ :=
      belfry.signal_ends_line moment ⟨id, id⟩ (.chain [wait, ring]) session false
    have hr : (line id [wait, ring] false).outcome.steps[0]? =
        some (Call.failed ⟨"s", ⟨0, [2]⟩, [], ⟨[], []⟩, moment⟩ (.obj []) .cancelled
          "cancelled before completion") := rfl
    exact ⟨_, hr, rfl, (hlast 0 _ hr rfl).1⟩
  · obtain ⟨-, -, hends, -⟩ :=
      belfry.signal_ends_line moment ⟨id, id⟩ (.chain [ring]) session true
    exact ((hends hlasts).2 rfl).2.1
  · obtain ⟨-, -, -, hidle⟩ :=
      belfry.signal_ends_line moment ⟨fun _ => false, id⟩ (.chain [ring, wait]) session false
    have hunheard : Signal.Idle ⟨fun _ => false, id⟩ belfry (fun w w' => w = w') := by
      constructor
      · exact fun _ _ _ => rfl
      · exact fun _ _ h => h
      · exact fun _ _ _ _ _ _ _ _ _ _ => rfl
      all_goals
        rintro id h hget args c w _ rfl
        rfl
    exact (hidle _ false hunheard rfl).1

end Engine

end ActionTree
