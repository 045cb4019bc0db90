import ActionTree.Proofs.Engine.Account
import ActionTree.Proofs.Json.Ordered
import ActionTree.Proofs.Line.Grammar
import ActionTree.Proofs.Template.References
import Mathlib.Logic.Relation

/-!
# Steps that refer to others

A step refers to outputs of steps before it that succeeded, and gets to its menu or its handler only
if all of its references do. Otherwise the first one that does not is its error, in the order of the
document, and neither the world nor the workspace changes. So a step that refers to a failed one
fails, and so does a step that refers to that.

* `StepRule.failed_of_unusable`: a step with a reference that cannot be used fails.
* `Engine.runStep_of_offence`: all that such a step does, whatever the handlers are.
* `Engine.Refers`: a record of a shell is of a step that refers to another record.
* `Engine.references_point_back`: the whole account.
-/

namespace ActionTree

/-! ## The arguments of lines -/

theorem PayloadText.ordered {p : List Char} {m : Fields Json} (h : PayloadText p m) :
    (Json.obj m).Ordered := by
  cases h with
  | none => exact .obj .nil (by simp)
  | object _ hp => exact Json.ordered_of_parse? hp

theorem StepText.ordered {jumpNeeded : Bool} {text : List Char} {s : Step}
    (h : StepText jumpNeeded text s) : (Json.obj s.rawArgs).Ordered := by
  cases h with
  | jump _ _ _ _ hp _ => exact hp.ordered
  | bare _ _ _ hp _ => exact hp.ordered

/-- The arguments of every step of a line are in order. -/
theorem LineText.ordered {cs : List Char} {c : Command} (h : LineText cs c) :
    ∀ s ∈ c.steps, (Json.obj s.rawArgs).Ordered := by
  have hall : ∀ {jumpNeeded : Bool} {ps : List (List Char)} {ss : List Step},
      List.Forall₂ (StepText jumpNeeded) ps ss → ∀ s ∈ ss, (Json.obj s.rawArgs).Ordered := by
    intro jumpNeeded ps ss hps
    induction hps with
    | nil => simp
    | cons hp _ ih => exact List.forall_mem_cons.2 ⟨hp.ordered, ih⟩
  cases h with
  | shortcut _ hp => exact List.forall_mem_singleton.2 hp.ordered
  | jump hp => exact List.forall_mem_singleton.2 hp.ordered
  | jumps hps => exact hall hps
  | chain _ _ hps => exact hall hps

/-! ## One step -/

namespace StepRule

variable {σ : Type} {e : Engine σ} {signal : Option (Signal σ)} {step : Step} {c : Call} {w : σ}
  {k : StepCase} {r : Record} {work : Workspace} {w' : σ}

/-- A step that gets to its menu or its handler has arguments with values. -/
theorem exists_args (h : StepRule e signal step c w k r work w') (hk : k = .menu ∨ k = .call) :
    ∃ args, step.template.resolve c.log = .ok args := by
  cases h with
  | noNode | badReference => rcases hk with hk | hk <;> cases hk
  | menu _ hargs | unregistered _ hargs | dropped _ hargs | answered _ hargs | refused _ hargs =>
    exact ⟨_, hargs⟩

/-- A step with a reference that cannot be used fails. -/
theorem failed_of_unusable (h : StepRule e signal step c w k r work w') {ref : StepRef}
    (href : ref ∈ step.refs) (hunusable : ¬ref.Usable c.log) : r.success = false := by
  cases h with
  | noNode | badReference | unregistered | dropped | refused => rfl
  | menu _ hargs | answered _ hargs =>
    exact absurd (Step.resolve_ok_iff.1 ⟨_, hargs⟩ ref href) hunusable

end StepRule

namespace Engine

variable {σ : Type} (e : Engine σ)

section Step

variable {e} {signal : Option (Signal σ)} {moment : Moment} {step : Step} {session : Session}
  {w : σ} {node : Node}

/-- A step at a node gets to its menu or its handler if and only if its arguments have values. -/
theorem reaches_iff (hnode : e.space.resolve? (seenBy moment step session).address = some node) :
    let s := e.runStep signal moment step session w
    (∃ k, (k = .menu ∨ k = .call) ∧
        StepRule e signal step (seenBy moment step session) w k s.record s.session.state.work
          s.world) ↔
      ∃ args, step.template.resolve session.state.log = .ok args := by
  intro s
  constructor
  · rintro ⟨k, hk, hrule⟩
    exact hrule.exists_args hk
  · rintro ⟨args, hargs⟩
    have hargs' : step.template.resolve (seenBy moment step session).log = .ok args := hargs
    refine ⟨_, ?_, e.runStep_rule signal moment step session w⟩
    simp only [stepCase, hnode, hargs']
    cases node.isMenu <;> simp

/-- A step whose arguments have no value adds the record of that to the session, and that is all. -/
theorem runStep_of_offence {err : ReferenceError}
    (hnode : e.space.resolve? (seenBy moment step session).address = some node)
    (herr : step.template.resolve session.state.log = .error err) :
    let c := seenBy moment step session
    let r := c.failed (.obj step.rawArgs) err.kind ("substitution failed: " ++ err.message)
    e.runStep signal moment step session w =
      ⟨r, { session with state := ⟨session.state.log ++ [r], session.state.work⟩ }, w,
        some c.address⟩ := by
  intro c r
  have hattempt := e.attemptIn_of_badReference signal moment hnode herr (w := w)
  have hrecord : (e.runStep signal moment step session w).record = r := by
    rw [runStep_record, hattempt]
    cases err <;> rfl
  have hsession := e.runStep_session signal moment step session w
  rw [hrecord, hattempt] at hsession
  have hstepped : e.runStep signal moment step session w =
      ⟨(e.runStep signal moment step session w).record,
        (e.runStep signal moment step session w).session,
        (e.attemptIn signal moment step session w).world,
        (e.attemptIn signal moment step session w).resolved⟩ := rfl
  rw [hstepped, hrecord, hsession, hattempt]

end Step

/-! ## All steps -/

/-- The log of a shell is a beginning of every later one. -/
theorem log_grows (id : String) (inputs more : List (Input σ)) :
    (e.transcript id inputs).session.state.log <+:
      (e.transcript id (inputs ++ more)).session.state.log := by
  induction more using List.reverseRecOn with
  | nil => simp
  | append_singleton more i ih =>
    rw [← List.append_assoc, transcript_concat, goOn_session, answer_log]
    exact ih.trans (List.prefix_append _ _)

/-- The record `r'` is of a step that refers to the step of `r`: in some line of a shell it is what
the step left, and one of the references of the step means the index of `r`. -/
def Refers (id : String) (inputs : List (Input σ)) (r' r : Record) : Prop :=
  ∃ earlier input later command k step ref, inputs = earlier ++ input :: later ∧
    Directive.ofLine? input.line = none ∧ Line.parse input.line = .ok command ∧
    command.steps[k]? = some step ∧ ref ∈ step.refs ∧
    let start := (e.transcript id earlier).session
    (e.execute input.signal input.moment command start input.world).outcome.steps[k]? = some r' ∧
      Template.target (start.state.log.length + k) ref = r.index

/-- A step that refers to a failed one fails. -/
theorem failed_of_refers {id : String} {inputs : List (Input σ)} {r' r : Record}
    (h : e.Refers id inputs r' r) (hr : r ∈ (e.transcript id inputs).session.state.log)
    (hfailed : r.success = false) :
    r' ∈ (e.transcript id inputs).session.state.log ∧ r'.success = false := by
  obtain ⟨earlier, input, later, command, k, step, ref, rfl, hd, hline, hstep, href, hr',
    htarget⟩ := h
  obtain ⟨-, hsession⟩ := e.answer_command (e.transcript id earlier).session hd hline
  have hgrows := e.log_grows id (earlier ++ [input]) later
  rw [transcript_concat, goOn_session, hsession, List.append_assoc, List.singleton_append] at hgrows
  have hnumbered := e.transcript_numbered id (earlier ++ input :: later)
  generalize (e.transcript id (earlier ++ input :: later)).session.state.log = log at *
  obtain ⟨step', rs, s, w, case, work, w', hstep', -, hseen, -, hrule⟩ :=
    e.execute_rule input.signal input.moment hr'
  rw [hseen] at hrule
  cases hstep.symm.trans hstep'
  have hk := (List.getElem?_eq_some_iff.1 hr').1
  have hlog := e.execute_log input.signal input.moment command (e.transcript id earlier).session
    input.world
  generalize e.execute input.signal input.moment command (e.transcript id earlier).session
    input.world = x at *
  generalize (e.transcript id earlier).session = start at *
  refine ⟨hgrows.mem ?_, hrule.failed_of_unusable href ?_⟩
  · rw [hlog]
    exact List.mem_append_right _ (List.mem_of_getElem? hr')
  -- The record that the reference means is `r`, which failed.
  rintro ⟨hpos, hle, record, hrecord, hsuccess⟩
  simp only at hpos hle hrecord
  rw [List.length_take, hlog, List.length_append, Nat.min_eq_left (by omega)] at hpos hle hrecord
  rw [htarget] at hpos hle hrecord
  have hplace : log[r.index - 1]? = some record := by
    obtain ⟨more, rfl⟩ := hgrows
    rw [List.getElem?_take_of_lt (by omega), ← hlog] at hrecord
    rw [List.getElem?_append_left (by rw [hlog, List.length_append]; omega), hrecord]
  rw [hnumbered.getElem?_of_mem hr, Option.some.injEq] at hplace
  rw [← hplace, hfailed] at hsuccess
  cases hsuccess

/-- **References point back, and only at successes.** A step at a node gets to its menu or its
handler if and only if each of its references means an earlier record of a success. Otherwise the
first one that does not, in the order of the document, is the error, and nothing is called. -/
theorem references_point_back :
    (∀ (signal : Option (Signal σ)) (moment : Moment) (step : Step) (session : Session) (w : σ)
        (node : Node), e.space.resolve? (seenBy moment step session).address = some node →
      let c := seenBy moment step session
      let log := session.state.log
      let s := e.runStep signal moment step session w
      ((∃ k, (k = .menu ∨ k = .call) ∧
          StepRule e signal step c w k s.record s.session.state.work s.world) ↔
        ∀ r ∈ step.refs, r.Usable log) ∧
      ∀ good bad rest, step.refs = good ++ bad :: rest → (∀ r ∈ good, r.Usable log) →
        ¬bad.Usable log →
          let i := Template.target log.length bad
          ∃ err : ReferenceError, (1 ≤ i → i ≤ log.length → err = .failedStep i) ∧
            (i = 0 ∨ log.length < i → err = .unknownStep i log.length) ∧
            let r := c.failed (.obj step.rawArgs) err.kind ("substitution failed: " ++ err.message)
            ∀ (handlers : Registry σ) (signal : Option (Signal σ)),
              ({ e with handlers := handlers } : Engine σ).runStep signal moment step session w =
                ⟨r, { session with state := ⟨log ++ [r], session.state.work⟩ }, w,
                  some c.address⟩) ∧
    (∀ line command, Line.parse line = .ok command →
      ∀ step ∈ command.steps, (Json.obj step.rawArgs).Ordered) ∧
    ∀ (id : String) (inputs : List (Input σ)),
      let log := (e.transcript id inputs).session.state.log
      Numbered log ∧ ∀ r ∈ log, r.success = false →
        ∀ r', Relation.TransGen (e.Refers id inputs) r' r → r' ∈ log ∧ r'.success = false := by
  refine ⟨fun signal moment step session w node hnode => ⟨?_, ?_⟩, fun line command hline => ?_,
    fun id inputs => ⟨e.transcript_numbered id inputs, fun r hr hfailed r' hrefers => ?_⟩⟩
  · rw [← Step.resolve_ok_iff]
    exact reaches_iff hnode
  · intro good bad rest hrefs hgood hbad i
    obtain ⟨err, herr, hfailed, hunknown⟩ := Template.lookup_of_unusable hbad
    exact ⟨err, hfailed, hunknown, fun handlers signal =>
      runStep_of_offence (e := { e with handlers := handlers }) hnode
        (Step.resolve_error hrefs hgood herr)⟩
  · exact (Line.lineText_of_parseChars hline).ordered
  -- Along the path of references, from the failed step to those that build on it.
  · induction hrefers using Relation.TransGen.head_induction_on with
    | single hrefers => exact e.failed_of_refers hrefers hr hfailed
    | head hrefers _ ih => exact e.failed_of_refers hrefers ih.1 ih.2

/-- Of two references that cannot be used the first one is the error; a step that refers to a failed
one fails. -/
theorem references_to_nothing_and_to_a_failure :
    let moment : Moment := ⟨.epoch, fun _ => ""⟩
    let lost : Step := ⟨.absolute ⟨0, [2]⟩, []⟩
    let step : Step := ⟨.absolute ⟨0, [1]⟩,
      [("a", .arr [.str "$step9_result"]), ("b", .str "$step1_result")]⟩
    let session := (sample.runStep none moment lost (sample.newSession "s") ()).session
    let c := seenBy moment step session
    let input : Input Unit := .plain "jump 0.1 \x7b\"b\": \"$last_result\", \"a\": 1\x7d"
    let log := (sample.transcript "s" [.plain "jump 0.2", input]).session.state.log
    (sample.runStep none moment step session ()).record =
        c.failed (.obj step.rawArgs) .unknownStep
          "substitution failed: step 9 does not exist (1 results recorded)" ∧
      (Json.obj [("a", .int 1), ("b", .str "$last_result")]).Ordered ∧
      ∃ r ∈ log, r.index = 2 ∧ r.success = false := by
  intro moment lost step session c input log
  obtain ⟨hstep, hordered, hlog⟩ := sample.references_point_back
  have hparse : Line.parse input.line =
      .ok (.jump ⟨.absolute ⟨0, [1]⟩, [("a", .int 1), ("b", .str "$last_result")]⟩) := by
    decide +kernel
  refine ⟨?_, hordered _ _ hparse _ List.mem_cons_self, ?_⟩
  · have hrefs : step.refs = [] ++ .index 9 :: [.index 1] := by decide +kernel
    have hlength : session.state.log.length = 1 := by decide +kernel
    obtain ⟨-, hoffence⟩ := hstep none moment step session () (.plain ⟨0, [1]⟩ "Echo" (some "echo"))
      (by decide +kernel)
    obtain ⟨err, -, hunknown, hrun⟩ := hoffence _ _ _ hrefs (by simp) (by
      rintro ⟨-, hle, -⟩
      simp [hlength, Template.target] at hle)
    have herr : err = .unknownStep 9 1 := by
      rw [hunknown (.inr (by rw [hlength]; decide)), hlength]
      rfl
    subst herr
    exact congrArg Stepped.record (hrun sample.handlers none)
  · have hd : Directive.ofLine? input.line = none := by decide
    let start := (sample.transcript "s" [.plain "jump 0.2"]).session
    let outcome := (sample.execute none moment
      (.jump ⟨.absolute ⟨0, [1]⟩, [("a", .int 1), ("b", .str "$last_result")]⟩) start ()).outcome
    have hstart : start.state.log.length = 1 := by decide +kernel
    obtain ⟨r, hr⟩ := Option.isSome_iff_exists.1 (show log[0]?.isSome = true by decide +kernel)
    obtain ⟨r', hr'⟩ :=
      Option.isSome_iff_exists.1 (show outcome.steps[0]?.isSome = true by decide +kernel)
    have hindex : log[0]?.map (·.index) = some 1 := by decide +kernel
    have hfailed : log[0]?.map (·.success) = some false := by decide +kernel
    have hindex' : outcome.steps[0]?.map (·.index) = some 2 := by decide +kernel
    rw [hr] at hindex hfailed
    rw [hr'] at hindex'
    have hrefers : sample.Refers "s" [.plain "jump 0.2", input] r' r := by
      refine ⟨[.plain "jump 0.2"], input, [], _, 0, _, .last, rfl, hd, hparse, rfl,
        by decide +kernel, hr', ?_⟩
      rw [hstart]
      exact (Option.some.inj hindex).symm
    obtain ⟨hmem, hfails⟩ := (hlog "s" _).2 r (List.mem_of_getElem? hr)
      (Option.some.inj hfailed) r' (.single hrefers)
    exact ⟨r', hmem, Option.some.inj hindex', hfails⟩

end Engine

end ActionTree
