import ActionTree.Proofs.Engine.Account
import ActionTree.Proofs.Line.Accepted

/-!
# Chains and their pieces

Steps behind others run as if they were a line of their own, in the session and the world that the
others leave, unless those end the line. Without a signal only a failure ends a line, so a chain is
its beginning and its end one after the other, and also its steps given as lines of their own. The
moment of a line is in the times of its records; a handler that looks neither at them nor at the
moment does the same at every moment.

* `Engine.resume`, `Engine.runSteps_append`: steps behind others, with any signal.
* `Engine.execute_chain_append`: two chains as one.
* `Engine.giveEach_jumps`: a chain as lines.
* `Engine.execute_untimed`, `Engine.giveEach_jumps_untimed`: the same at other moments.
* `Engine.chain_runs_as_its_pieces`: all of them together.
-/

namespace ActionTree

/-- Without a signal no call is dropped. -/
theorem StepRule.isCancelled_eq {σ : Type} {e : Engine σ} {step : Step} {c : Call} {w : σ}
    {k : StepCase} {r : Record} {work : Workspace} {w' : σ}
    (h : StepRule e none step c w k r work w') : Engine.isCancelled r = false := by
  cases h with
  | dropped _ _ _ _ hsignal => cases hsignal
  | badReference =>
    rename_i r _ _
    cases r <;> rfl
  | _ => rfl

namespace Engine

variable {σ : Type} (e : Engine σ) (signal : Option (Signal σ)) (moment : Moment)

/-! ## Steps behind others -/

/-- Steps that run behind others, unless those ended the line. -/
def resume (r : Run σ) (next : Session → σ → Run σ) : Run σ :=
  if r.cancelled || !r.records.all e.goesOn then r
  else
    let t := next r.session r.world
    { t with records := r.records ++ t.records, resolved := t.resolved.or r.resolved }

theorem resume_of_ended {r : Run σ} (next : Session → σ → Run σ)
    (h : (r.cancelled || !r.records.all e.goesOn) = true) : e.resume r next = r := if_pos h

theorem resume_of_going {r : Run σ} (next : Session → σ → Run σ)
    (h : ¬(r.cancelled || !r.records.all e.goesOn) = true) :
    e.resume r next =
      let t := next r.session r.world
      { t with records := r.records ++ t.records, resolved := t.resolved.or r.resolved } := if_neg h

/-- A record in front of a run that a line goes on behind stays in front of what follows. -/
theorem resume_cons {first : Record} (hfirst : e.goesOn first = true) (r : Run σ)
    (resolved : Option Address) (next : Session → σ → Run σ) :
    e.resume { r with records := first :: r.records, resolved := r.resolved.or resolved } next =
      let t := e.resume r next
      { t with records := first :: t.records, resolved := t.resolved.or resolved } := by
  by_cases h : (r.cancelled || !r.records.all e.goesOn) = true
  · rw [resume_of_ended e next h, resume_of_ended e next (by simpa [hfirst] using h)]
  · rw [resume_of_going e next h, resume_of_going e next (by simpa [hfirst] using h)]
    simp [Option.or_assoc]

/-- Steps behind others run in what the others leave, unless those ended the line. -/
theorem runSteps_append (xs ys : List Step) (session : Session) (w : σ) :
    e.runSteps signal moment (xs ++ ys) session w =
      e.resume (e.runSteps signal moment xs session w) (e.runSteps signal moment ys) := by
  induction xs generalizing session w with
  | nil => simp [resume]
  | cons x xs ih =>
    rw [List.cons_append, runSteps_cons, runSteps_cons]
    split
    · exact (e.resume_of_ended _ rfl).symm
    simp only
    split
    · rename_i hgoes
      rw [ih, e.resume_cons hgoes]
    · rename_i hends
      exact (e.resume_of_ended _ (by simp [hends])).symm

/-! ## Lines without a signal -/

/-- Without a signal no step is cancelled. -/
@[simp] theorem isCancelled_runStep (step : Step) (session : Session) (w : σ) :
    isCancelled (e.runStep none moment step session w).record = false :=
  (e.runStep_rule none moment step session w).isCancelled_eq

/-- Without a signal only a failure ends a line. -/
theorem goesOn_runStep (step : Step) (session : Session) (w : σ) :
    e.goesOn (e.runStep none moment step session w).record =
      ((e.runStep none moment step session w).record.success || e.options.continueOnError) := by
  simp [goesOn]

@[simp] theorem cancelled_runSteps (steps : List Step) (session : Session) (w : σ) :
    (e.runSteps none moment steps session w).cancelled = false := by
  induction steps generalizing session w with
  | nil => rfl
  | cons step rest ih =>
    rw [runSteps_cons, poll, if_neg (by simp)]
    simp only
    split
    · exact ih _ _
    · exact e.isCancelled_runStep moment _ _ _

/-- Without a signal all records let a line go on if and only if all steps succeeded or failures do
not count. -/
theorem all_goesOn_runSteps (steps : List Step) (session : Session) (w : σ) :
    (e.runSteps none moment steps session w).records.all e.goesOn =
      ((e.runSteps none moment steps session w).records.all (·.success) ||
        e.options.continueOnError) := by
  induction steps generalizing session w with
  | nil => simp
  | cons step rest ih =>
    rw [runSteps_cons, poll, if_neg (by simp)]
    simp only
    split
    · rename_i hgoes
      rw [List.all_cons, List.all_cons, hgoes, ih]
      rw [goesOn_runStep] at hgoes
      revert hgoes
      cases (e.runStep none moment step session w).record.success <;>
        cases e.options.continueOnError <;> simp
    · simp [goesOn_runStep]

/-- The path behind a command: a single step moves to its node, if that exists. -/
def pathAfter (command : Command) (resolved : Option Address) (nav : Navigator) : Navigator :=
  match resolved with
  | some a => if command.movesCursor then nav.moveTo a else nav
  | none => nav

@[simp] theorem pathAfter_chain (steps : List Step) (resolved : Option Address)
    (nav : Navigator) : pathAfter (.chain steps) resolved nav = nav := by
  cases resolved <;> rfl

/-- A command without a signal, by the run of its steps. -/
theorem execute_eq (command : Command) (session : Session) (w : σ) :
    e.execute none moment command session w =
      let r := e.runSteps none moment command.steps session w
      let nav := pathAfter command r.resolved session.nav
      ⟨⟨r.records, r.records.all (·.success), false, nav.cursor⟩, { r.session with nav := nav },
        r.world⟩ := by
  simp only [execute, cancelled_runSteps, runSteps_nav, Bool.not_false, Bool.true_and]
  rfl

theorem execute_chain_eq (steps : List Step) (session : Session) (w : σ) :
    e.execute none moment (.chain steps) session w =
      let r := e.runSteps none moment steps session w
      ⟨⟨r.records, r.records.all (·.success), false, session.nav.cursor⟩, r.session, r.world⟩ := by
  have hnav := e.runSteps_nav none moment steps session w
  simp only [execute_eq, Command.steps, pathAfter_chain]
  rw [← hnav]

/-- **Two chains as one.** -/
theorem execute_chain_append (xs ys : List Step) (session : Session) (w : σ) :
    let first := e.execute none moment (.chain xs) session w
    let second := e.execute none moment (.chain ys) first.session first.world
    let whole := e.execute none moment (.chain (xs ++ ys)) session w
    if first.outcome.success || e.options.continueOnError then
      whole.session = second.session ∧ whole.world = second.world ∧
        whole.outcome.steps = first.outcome.steps ++ second.outcome.steps ∧
        whole.outcome.success = (first.outcome.success && second.outcome.success)
    else whole = first := by
  intro first second whole
  simp only [whole, second, first, execute_chain_eq, runSteps_append]
  split
  · rename_i hgoes
    rw [resume_of_going _ _ (by rw [cancelled_runSteps, all_goesOn_runSteps, hgoes]; simp)]
    simp
  · rename_i hends
    rw [resume_of_ended _ _ (by rw [all_goesOn_runSteps]; simp [hends])]

/-! ## Chains as lines -/

/-- A step that goes to the same node at every cursor does the same at every one. -/
theorem runStep_of_isAbsolute {step : Step} (h : step.IsAbsolute) (session : Session)
    (nav : Navigator) (w : σ) :
    e.runStep signal moment step { session with nav := nav } w =
      let s := e.runStep signal moment step session w
      { s with session := { s.session with nav := nav } } := by
  obtain ⟨a, ha⟩ := h
  simp only [runStep, ha, Target.at_]
  rfl

/-- A line of one step, without a signal. -/
theorem runSteps_singleton (step : Step) (session : Session) (w : σ) :
    e.runSteps none moment [step] session w =
      let s := e.runStep none moment step session w
      ⟨[s.record], false, s.resolved, s.session, s.world⟩ := by
  rw [runSteps_single, poll, if_neg (by simp)]
  simp only [isCancelled_runStep]

/-- A jump adds its step and moves the cursor. -/
theorem execute_jump (step : Step) (session : Session) (w : σ) :
    ∃ nav, e.execute none moment (.jump step) session w =
      let s := e.runStep none moment step session w
      ⟨⟨[s.record], s.record.success, false, nav.cursor⟩, { s.session with nav := nav },
        s.world⟩ := by
  rw [execute_eq, Command.steps, runSteps_singleton]
  simp only [List.all_cons, List.all_nil, Bool.and_true]
  exact ⟨_, rfl⟩

/-- A line that is a jump leaves at any cursor what its step leaves, and another path. -/
theorem handle_jump {line : String} {step : Step} (h : Line.parse line = .ok (.jump step))
    (session : Session) (nav : Navigator) (w : σ) :
    ∃ nav', e.handle none moment line { session with nav := nav } w =
      let s := e.runStep none moment step session w
      ⟨.outcome ⟨[s.record], s.record.success, false, nav'.cursor⟩,
        { s.session with nav := nav' }, s.world⟩ := by
  have habsolute : step.IsAbsolute := by
    rcases Line.isAbsolute_of_parseChars h with ⟨_, hshort⟩ | hsteps
    · cases hshort
    · exact hsteps step (by simp [Command.steps])
  obtain ⟨nav', hjump⟩ := e.execute_jump moment step { session with nav := nav } w
  rw [e.runStep_of_isAbsolute none moment habsolute] at hjump
  refine ⟨nav', ?_⟩
  rw [handle, Line.ofLine?_eq_none_of_parse h, executeLine, h]
  simp only [Except.map, hjump]

/-- Lines given to a shell one by one, each at its moment and only behind a success, unless the
engine continues on errors: the session and the world that they leave. -/
def giveEach : List (Moment × String) → Session → σ → Session × σ
  | [], session, w => (session, w)
  | (moment, line) :: rest, session, w =>
    let h := e.handle none moment line session w
    if !h.response.isFailure || e.options.continueOnError then giveEach rest h.session h.world
    else (h.session, h.world)

/-- The jumps of a chain as lines leave the same as the chain, but for the path. -/
theorem giveEach_jumps {lines : List String} {steps : List Step}
    (h : List.Forall₂ (fun line step => Line.parse line = .ok (.jump step)) lines steps)
    (session : Session) (nav : Navigator) (w : σ) :
    let each := e.giveEach (lines.map (moment, ·)) { session with nav := nav } w
    let chain := e.execute none moment (.chain steps) session w
    each.1.state = chain.session.state ∧ each.2 = chain.world := by
  induction h generalizing session nav w with
  | nil => exact ⟨rfl, rfl⟩
  | @cons line step lines steps hline hrest ih =>
    obtain ⟨nav', hhandled⟩ := e.handle_jump moment hline session nav w
    have hnext := ih (e.runStep none moment step session w).session nav'
      (e.runStep none moment step session w).world
    simp only [execute_chain_eq] at hnext ⊢
    rw [List.map_cons, giveEach, hhandled, runSteps_cons]
    simp only [poll, Bool.false_eq_true, ↓reduceIte, Response.isFailure, Bool.not_not,
      goesOn_runStep]
    split
    · exact hnext
    · exact ⟨rfl, rfl⟩

/-! ## Moments -/

end Engine

/-- A record without its time. -/
def Record.untimed (r : Record) : Record := { r with recordedAt := .epoch }

/-- A session without the times of its records. -/
def Session.untimed (s : Session) : Session :=
  { s with state := ⟨s.state.log.map Record.untimed, s.state.work⟩ }

namespace Template

/-- The times of records are in no argument. -/
@[simp] theorem lookup_untimed (r : StepRef) (log : List Record) :
    lookup r (log.map Record.untimed) = lookup r log := by
  simp only [lookup, List.length_map, List.getElem?_map]
  split
  · rfl
  · cases log[target log.length r - 1]? <;> rfl

@[simp] theorem interpolate_untimed (log : List Record) (segments : List Segment) :
    interpolate (log.map Record.untimed) segments = interpolate log segments := by
  induction segments with
  | nil => rfl
  | cons s rest ih => cases s <;> simp only [interpolate, ih, lookup_untimed]

mutual

@[simp] theorem resolve_untimed (log : List Record) (t : Template) :
    resolve (log.map Record.untimed) t = resolve log t := by
  cases t with
  | literal v => simp only [resolve]
  | ref r => simp only [resolve, lookup_untimed]
  | interpolated segments => simp only [resolve, interpolate_untimed]
  | object members => simp only [resolve, resolveMembers_untimed log members]
  | array items => simp only [resolve, resolveItems_untimed log items]

theorem resolveItems_untimed (log : List Record) (items : List Template) :
    resolveItems (log.map Record.untimed) items = resolveItems log items := by
  cases items with
  | nil => simp only [resolveItems]
  | cons t rest =>
    simp only [resolveItems, resolve_untimed log t, resolveItems_untimed log rest]

theorem resolveMembers_untimed (log : List Record) (members : List (String × Template)) :
    resolveMembers (log.map Record.untimed) members = resolveMembers log members := by
  cases members with
  | nil => simp only [resolveMembers]
  | cons m rest =>
    obtain ⟨k, t⟩ := m
    simp only [resolveMembers, resolve_untimed log t, resolveMembers_untimed log rest]

end

end Template

namespace Engine

variable {σ : Type} (e : Engine σ)

/-- The handlers look neither at the moment nor at the times of records. No engine with the built-in
handlers is like that: an export says its moment, and a completion dates its messages. -/
def Timeless : Prop :=
  ∀ id h, e.handlers.get? id = some h → ∀ args (c : Call) (moment : Moment) w,
    h.invoke args { c with log := c.log.map Record.untimed, moment := moment } w =
      h.invoke args c w

section Untimed

variable {e} (moment moment' : Moment) {session session' : Session}

theorem dispatch_untimed (h : e.Timeless) (hs : session.untimed = session'.untimed) (id : String)
    (args : Json) (address : Address) (w : σ) :
    e.dispatch none id args (callOf session address moment) w =
      e.dispatch none id args (callOf session' address moment') w := by
  obtain ⟨hid, hlog, hwork⟩ : session.id = session'.id ∧
      session.state.log.map Record.untimed = session'.state.log.map Record.untimed ∧
      session.state.work = session'.state.work := by
    simp only [Session.untimed, Session.mk.injEq, State.mk.injEq] at hs
    exact ⟨hs.1, hs.2.1.1, hs.2.1.2⟩
  cases hget : e.handlers.get? id with
  | none =>
    rw [e.dispatch_of_unregistered none hget, e.dispatch_of_unregistered none hget]
    simp only [callOf, hwork]
  | some handler =>
    have hcall := h id handler hget args (callOf session address moment) moment w
    have hcall' := h id handler hget args (callOf session' address moment') moment w
    simp only [callOf, hid, hlog, hwork] at hcall hcall'
    rw [e.dispatch_of_kept none hget (by simp), e.dispatch_of_kept none hget (by simp)]
    simp only [callOf, hid, hwork, ← hcall, ← hcall']

theorem attempt_untimed (h : e.Timeless) (hs : session.untimed = session'.untimed) (step : Step)
    (address : Address) (w : σ) :
    e.attempt none moment step address session w =
      e.attempt none moment' step address session' w := by
  have hargs : step.template.resolve session.state.log =
      step.template.resolve session'.state.log := by
    have hlog : session.state.log.map Record.untimed = session'.state.log.map Record.untimed :=
      congrArg (·.state.log) hs
    rw [← Template.resolve_untimed, hlog, Template.resolve_untimed]
  have hwork : session.state.work = session'.state.work := congrArg (·.state.work) hs
  simp only [attempt, hargs, hwork, dispatch_untimed moment moment' h hs]

theorem Attempt.record_untimed (a : Attempt σ) (index : Nat) (address : Address)
    (now now' : Instant) :
    (a.record index address now).untimed = (a.record index address now').untimed := by
  unfold Attempt.record
  split <;> rfl

/-- A step at two moments. -/
theorem runStep_untimed (h : e.Timeless) (hs : session.untimed = session'.untimed) (step : Step)
    (w : σ) :
    let s := e.runStep none moment step session w
    let s' := e.runStep none moment' step session' w
    s.record.untimed = s'.record.untimed ∧ s.session.untimed = s'.session.untimed ∧
      s.world = s'.world ∧ s.resolved = s'.resolved := by
  have hnav : session.nav = session'.nav := congrArg (·.nav) hs
  have hattempt : e.attemptIn none moment step session w = e.attemptIn none moment' step session' w
    := by rw [attemptIn, attemptIn, hnav, attempt_untimed moment moment' h hs]
  have hnext : session.state.nextIndex = session'.state.nextIndex := by
    have hlength := congrArg (·.state.log.length) hs
    simpa [Session.untimed, State.nextIndex] using hlength
  have hrecord : (e.runStep none moment step session w).record.untimed =
      (e.runStep none moment' step session' w).record.untimed := by
    rw [runStep_record, runStep_record, hattempt, hnav, hnext, Attempt.record_untimed]
  refine ⟨hrecord, ?_, ?_, ?_⟩
  · simp only [Session.untimed, Session.mk.injEq, State.mk.injEq] at hs
    simp [runStep_session, Session.untimed, hrecord, hattempt, hs]
  · simp [hattempt]
  · exact congrArg (·.resolved) hattempt

/-- The steps of a line at two moments. -/
theorem runSteps_untimed (h : e.Timeless) (hs : session.untimed = session'.untimed)
    (steps : List Step) (w : σ) :
    let r := e.runSteps none moment steps session w
    let r' := e.runSteps none moment' steps session' w
    r.records.map Record.untimed = r'.records.map Record.untimed ∧
      r.session.untimed = r'.session.untimed ∧ r.world = r'.world ∧ r.resolved = r'.resolved := by
  induction steps generalizing session session' w with
  | nil => exact ⟨rfl, hs, rfl, rfl⟩
  | cons step rest ih =>
    intro r r'
    obtain ⟨hrecord, hsession, hworld, hresolved⟩ :=
      runStep_untimed moment moment' h hs step w
    -- Whether the line goes on behind a record does not depend on its time.
    have hgoes : e.goesOn (e.runStep none moment step session w).record =
        e.goesOn (e.runStep none moment' step session' w).record := by
      change e.goesOn (e.runStep none moment step session w).record.untimed = _
      rw [hrecord]
      rfl
    obtain ⟨ihrecords, ihsession, ihworld, ihresolved⟩ :=
      ih hsession (e.runStep none moment step session w).world
    simp only [r, r', runSteps_cons, poll, Bool.false_eq_true, ↓reduceIte, hgoes]
    by_cases hb : e.goesOn (e.runStep none moment' step session' w).record = true
    · rw [hworld] at ihrecords ihsession ihworld ihresolved
      simp only [hb, ↓reduceIte, hworld]
      exact ⟨by rw [List.map_cons, List.map_cons, hrecord, ihrecords], ihsession, ihworld,
        by rw [ihresolved, hresolved]⟩
    · simp only [hb, Bool.false_eq_true, ↓reduceIte]
      exact ⟨by simp [hrecord], hsession, hworld, hresolved⟩

/-- A command at two moments does the same up to the times of records. -/
theorem execute_untimed (h : e.Timeless) (hs : session.untimed = session'.untimed)
    (command : Command) (w : σ) :
    let x := e.execute none moment command session w
    let x' := e.execute none moment' command session' w
    x.outcome.steps.map Record.untimed = x'.outcome.steps.map Record.untimed ∧
      x.outcome.success = x'.outcome.success ∧ x.session.untimed = x'.session.untimed ∧
      x.world = x'.world := by
  obtain ⟨hrecords, hsession, hworld, hresolved⟩ :=
    runSteps_untimed moment moment' h hs command.steps w
  have hnav : session.nav = session'.nav := congrArg (·.nav) hs
  have hsuccess : ∀ rs : List Record,
      rs.all (·.success) = (rs.map Record.untimed).all (·.success) := fun rs => by
    rw [List.all_map]
    rfl
  simp only [execute_eq]
  refine ⟨hrecords, ?_, ?_, hworld⟩
  · rw [hsuccess, hrecords, ← hsuccess]
  · simp only [Session.untimed, Session.mk.injEq] at hsession ⊢
    exact ⟨hsession.1, hsession.2.1, by rw [hresolved, hnav]⟩

/-- A line that is a command, at two moments. -/
theorem handle_untimed (h : e.Timeless) (hs : session.untimed = session'.untimed) {line : String}
    {command : Command} (hline : Line.parse line = .ok command) (w : σ) :
    let x := e.handle none moment line session w
    let x' := e.handle none moment' line session' w
    x.response.isFailure = x'.response.isFailure ∧ x.session.untimed = x'.session.untimed ∧
      x.world = x'.world := by
  obtain ⟨-, hsuccess, hsession, hworld⟩ := execute_untimed moment moment' h hs command w
  simp only [handle, Line.ofLine?_eq_none_of_parse hline, executeLine, hline, Except.map,
    Response.isFailure]
  exact ⟨congrArg (!·) hsuccess, hsession, hworld⟩

/-- Commands given each at its moment leave what they leave at one moment. -/
theorem giveEach_untimed (h : e.Timeless) {inputs : List (Moment × String)}
    (hlines : ∀ i ∈ inputs, ∃ command, Line.parse i.2 = .ok command)
    (hs : session.untimed = session'.untimed) (w : σ) :
    let x := e.giveEach inputs session w
    let x' := e.giveEach ((inputs.map (·.2)).map (moment, ·)) session' w
    x.1.untimed = x'.1.untimed ∧ x.2 = x'.2 := by
  induction inputs generalizing session session' w with
  | nil => exact ⟨hs, rfl⟩
  | cons i rest ih =>
    obtain ⟨command, hline⟩ := hlines i (by simp)
    obtain ⟨hfailure, hsession, hworld⟩ := handle_untimed i.1 moment h hs hline w
    have hrest := ih (fun j hj => hlines j (List.mem_cons_of_mem _ hj)) hsession
      (e.handle none i.1 i.2 session w).world
    simp only [List.map_cons, giveEach, hfailure]
    split
    · rw [← hworld]
      exact hrest
    · exact ⟨hsession, hworld⟩

/-- The jumps of a chain as lines at any moments leave the same as the chain, but for the path and
the times of records. -/
theorem giveEach_jumps_untimed (h : e.Timeless) {inputs : List (Moment × String)}
    {steps : List Step}
    (hlines : List.Forall₂ (fun i step => Line.parse i.2 = .ok (.jump step)) inputs steps)
    (session : Session) (w : σ) :
    let each := e.giveEach inputs session w
    let chain := e.execute none moment (.chain steps) session w
    each.1.untimed.state = chain.session.untimed.state ∧ each.2 = chain.world := by
  have hcommands : ∀ i ∈ inputs, ∃ command, Line.parse i.2 = .ok command := by
    induction hlines with
    | nil => exact fun i hi => absurd hi List.not_mem_nil
    | cons hline _ ih => exact List.forall_mem_cons.2 ⟨⟨_, hline⟩, ih⟩
  obtain ⟨hsession, hworld⟩ := giveEach_untimed moment h hcommands (rfl : session.untimed = _) w
  obtain ⟨hstate, hleft⟩ := e.giveEach_jumps moment (List.forall₂_map_left_iff.2 hlines) session
    session.nav w
  refine ⟨?_, hworld.trans hleft⟩
  simp only [hsession]
  exact congrArg (fun s : State => (⟨s.log.map Record.untimed, s.work⟩ : State)) hstate

end Untimed

/-- **Chains and their pieces.** Without a signal a chain is its beginning and then its end as a
chain of its own, unless a failure ends the beginning, which then is all of the chain. Its steps
given as lines leave the same log, variables, agents and world. At other moments only the times of
records differ, if no handler looks at them. -/
theorem chain_runs_as_its_pieces :
    (∀ (moment : Moment) (xs ys : List Step) (session : Session) (w : σ),
      let first := e.execute none moment (.chain xs) session w
      let second := e.execute none moment (.chain ys) first.session first.world
      let whole := e.execute none moment (.chain (xs ++ ys)) session w
      if first.outcome.success || e.options.continueOnError then
        whole.session = second.session ∧ whole.world = second.world ∧
          whole.outcome.steps = first.outcome.steps ++ second.outcome.steps ∧
          whole.outcome.success = (first.outcome.success && second.outcome.success)
      else whole = first) ∧
    (∀ (moment : Moment) (lines : List String) (steps : List Step),
      List.Forall₂ (fun line step => Line.parse line = .ok (.jump step)) lines steps →
        ∀ (session : Session) (w : σ),
          let each := e.giveEach (lines.map (moment, ·)) session w
          let chain := e.execute none moment (.chain steps) session w
          each.1.state = chain.session.state ∧ each.2 = chain.world) ∧
    (e.Timeless → ∀ (moment moment' : Moment) (command : Command) (session session' : Session)
      (w : σ), session.untimed = session'.untimed →
        let x := e.execute none moment command session w
        let x' := e.execute none moment' command session' w
        x.outcome.steps.map Record.untimed = x'.outcome.steps.map Record.untimed ∧
          x.outcome.success = x'.outcome.success ∧ x.session.untimed = x'.session.untimed ∧
          x.world = x'.world) ∧
    (e.Timeless → ∀ (moment : Moment) (inputs : List (Moment × String)) (steps : List Step),
      List.Forall₂ (fun i step => Line.parse i.2 = .ok (.jump step)) inputs steps →
        ∀ (session : Session) (w : σ),
          let each := e.giveEach inputs session w
          let chain := e.execute none moment (.chain steps) session w
          each.1.untimed.state = chain.session.untimed.state ∧ each.2 = chain.world) := by
  refine ⟨e.execute_chain_append, fun moment lines steps h session w => ?_, ?_, ?_⟩
  · exact e.giveEach_jumps moment h session session.nav w
  · intro h moment moment' command session session' w hs
    exact execute_untimed moment moment' h hs command w
  · intro h moment inputs steps hlines session w
    exact giveEach_jumps_untimed moment h hlines session w

/-- The handlers of the sample look at no time. -/
theorem timeless_sample : sample.Timeless := by
  intro id h hget args c m w
  have hecho : h = .ofAction "echo" "" fun args c => .ok (args, c.work) := by
    simp only [sample, Registry.ofHandlers, List.foldl_cons, List.foldl_nil, Registry.register,
      Fields.put, Fields.get?_cons, Fields.get?_nil, Option.ite_none_right_eq_some,
      Option.some.injEq] at hget
    exact hget.2.symm
  rw [hecho]
  rfl

/-- Two jumps as lines leave what their chain leaves, and the chain does at two moments the same up
to the times of records. -/
theorem chain_of_two_jumps :
    let moment : Moment := ⟨.epoch, fun _ => ""⟩
    let moment' : Moment := ⟨.dayAfter .epoch, fun _ => "later"⟩
    let jump (a : Address) : Step := ⟨.absolute a, []⟩
    let steps := [jump ⟨0, [1]⟩, jump .root]
    let lines := ["jump 0.1", "jump 0"]
    let inputs := [(moment, "jump 0.1"), (moment', "jump 0")]
    let start := sample.newSession "s"
    let chain := sample.execute none moment (.chain steps) start ()
    List.Forall₂ (fun line step => Line.parse line = .ok (.jump step)) lines steps ∧
      (sample.giveEach (lines.map (moment, ·)) start ()).1.state = chain.session.state ∧
      chain.session.untimed =
        (sample.execute none moment' (.chain steps) start ()).session.untimed ∧
      (sample.giveEach inputs start ()).1.untimed.state = chain.session.untimed.state := by
  intro moment moment' jump steps lines inputs start chain
  have hfirst : Line.parse "jump 0.1" = .ok (.jump (jump ⟨0, [1]⟩)) := rfl
  have hsecond : Line.parse "jump 0" = .ok (.jump (jump .root)) := rfl
  have hlines : List.Forall₂ (fun line step => Line.parse line = .ok (.jump step)) lines steps :=
    .cons hfirst (.cons hsecond .nil)
  have hinputs : List.Forall₂ (fun (i : Moment × String) step =>
      Line.parse i.2 = .ok (.jump step)) inputs steps := .cons hfirst (.cons hsecond .nil)
  obtain ⟨-, hgiven, huntimed, hmoments⟩ := sample.chain_runs_as_its_pieces
  exact ⟨hlines, (hgiven moment lines steps hlines start ()).1,
    (huntimed timeless_sample moment moment' (.chain steps) start start () rfl).2.2.1,
    (hmoments timeless_sample moment inputs steps hinputs start ()).1⟩

end Engine

end ActionTree
