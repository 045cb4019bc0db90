import ActionTree.Proofs.Engine.Composition
import ActionTree.Proofs.Program.Conversation

/-!
# The exit status of given lines

Lines that are given end with success if and only if all of them could be read and all steps in the
log of the session succeeded. The program looks at responses only, not at the log: a response is a
failure if its line was rejected or its outcome is no success, and without a signal an outcome is a
success if and only if all of its records are.

* `executedLines`: the lines in front of the first one that ends the shell.
* `Engine.isFailure_handle_eq_false_iff`: the lines whose responses are no failures.
* `Engine.converse_log`: the log at the end is what the responses report.
* `Engine.all_answers_iff`: when no response is a failure.
* `Program.exit_status_tells_success`: the whole account.
-/

namespace ActionTree

/-- The lines in front of the first one that ends the shell. -/
def executedLines (lines : List String) : List String :=
  lines.takeWhile fun line => Directive.ofLine? line ≠ some .exit

/-- The lines that a conversation has, found out one by one, are the executed ones. -/
theorem executedLines_eq {lines before : List String}
    (hbefore : before = lines ∨ ∃ line rest, lines = before ++ line :: rest ∧ Directive.Ends line)
    (hnone : ∀ line ∈ before, ¬Directive.Ends line) : executedLines lines = before := by
  have hgo : ∀ line ∈ before, decide (Directive.ofLine? line ≠ some .exit) = true := by
    intro line hline
    rw [decide_eq_true_eq, Ne, Directive.ofLine?_eq_exit_iff]
    exact hnone line hline
  rcases hbefore with rfl | ⟨line, rest, rfl, hends⟩
  · exact List.takeWhile_eq_self_iff.2 hgo
  · have hstop : Directive.ofLine? line = some .exit := Directive.ofLine?_eq_exit_iff.2 hends
    rw [executedLines, List.takeWhile_append_of_pos hgo]
    simp [hstop]

namespace Engine

variable {σ : Type} (e : Engine σ)

/-! ## One line -/

/-- Without a signal a command succeeds if and only if all of its records are of successes. -/
theorem success_of_no_signal (moment : Moment) (command : Command) (session : Session) (w : σ) :
    (e.execute none moment command session w).outcome.success = true ↔
      ∀ r ∈ (e.execute none moment command session w).outcome.steps, r.success = true := by
  simp [execute]

theorem handle_eq_answer (signal : Option (Signal σ)) (moment : Moment) (line : String)
    (session : Session) (w : σ) :
    e.handle signal moment line session w = e.answer ⟨line, signal, moment, w⟩ session := by
  unfold answer
  rfl

theorem handle_log (signal : Option (Signal σ)) (moment : Moment) (line : String)
    (session : Session) (w : σ) :
    (e.handle signal moment line session w).session.state.log =
      session.state.log ++ (e.handle signal moment line session w).response.records := by
  rw [handle_eq_answer]
  exact e.answer_log _ session

/-- The response to a line is no failure if and only if the line is a directive or can be read, and
all records that it reports are of successes. -/
theorem isFailure_handle_eq_false_iff (moment : Moment) (line : String) (session : Session)
    (w : σ) :
    (e.handle none moment line session w).response.isFailure = false ↔
      (Directive.ofLine? line = none → ∃ command, Line.parse line = .ok command) ∧
        ∀ r ∈ (e.handle none moment line session w).response.records, r.success = true := by
  rw [handle_eq_answer]
  rcases line_cases line with ⟨d, hd⟩ | ⟨hd, ⟨err, hline⟩ | ⟨command, hline⟩⟩
  · have hresponse := (e.answer_directive (i := ⟨line, none, moment, w⟩) session hd).1
    have hharmless : (e.obey d session).1.isFailure = false := by cases d <;> rfl
    rw [hresponse, records_obey, hharmless]
    simp [hd]
  · have hresponse := (e.answer_rejected (i := ⟨line, none, moment, w⟩) session hd hline).1
    rw [hresponse]
    simp [hd, hline, Response.isFailure]
  · have hresponse := (e.answer_command (i := ⟨line, none, moment, w⟩) session hd hline).1
    have hsuccess := e.success_of_no_signal moment command session w
    rw [hresponse]
    simp only [Response.isFailure, Response.records, Bool.not_eq_false']
    rw [hsuccess]
    exact (and_iff_right fun _ => ⟨command, hline⟩).symm

/-! ## Conversations -/

section Converse

variable (moments : Nat → Moment)

/-- Of lines those in front of the first one that ends the shell are executed, and no others: a
conversation has one response for each of them, and leaves what they leave. -/
theorem converse_executedLines (signal : Option (Signal σ)) (n : Nat) (lines : List String)
    (session : Session) (w : σ) :
    e.converse signal moments n lines session w =
        e.converse signal moments n (executedLines lines) session w ∧
      (e.converse signal moments n lines session w).answers.length =
        (executedLines lines).length := by
  obtain ⟨before, hbefore, hnone, hsame, hlength⟩ :=
    e.converse_exits moments signal n lines session w
  rw [executedLines_eq hbefore hnone]
  exact ⟨hsame, hsame ▸ hlength⟩

/-- What a conversation adds to the log is what its responses report, in order. -/
theorem converse_log (signal : Option (Signal σ)) (n : Nat) (lines : List String)
    (session : Session) (w : σ) :
    (e.converse signal moments n lines session w).session.state.log =
      session.state.log ++
        (e.converse signal moments n lines session w).answers.flatMap (·.response.records) := by
  induction lines generalizing n session w with
  | nil => exact (List.append_nil _).symm
  | cons line rest ih =>
    by_cases hends : Directive.Ends line
    · rw [e.converse_cons_of_ends moments signal n rest session w hends]
      exact (List.append_nil _).symm
    · rw [e.converse_cons_of_not_ends moments signal n rest session w hends]
      simp only [ih, handle_log, List.flatMap_cons, List.append_assoc]

/-- No response to lines that do not end the shell is a failure if and only if each of them is a
directive or can be read, and all records that are reported are of successes. -/
theorem all_answers_iff (n : Nat) {lines : List String}
    (hlines : ∀ line ∈ lines, ¬Directive.Ends line) (session : Session) (w : σ) :
    let answers := (e.converse none moments n lines session w).answers
    answers.all (!·.response.isFailure) = true ↔
      (∀ line ∈ lines, Directive.ofLine? line = none → ∃ command, Line.parse line = .ok command) ∧
        ∀ r ∈ answers.flatMap (·.response.records), r.success = true := by
  induction lines generalizing n session w with
  | nil => simp [converse]
  | cons line rest ih =>
    obtain ⟨hline, hrest⟩ := List.forall_mem_cons.1 hlines
    have hfirst := e.isFailure_handle_eq_false_iff (moments n) line session w
    have hbehind := ih (n + 1) hrest (e.handle none (moments n) line session w).session
      (e.handle none (moments n) line session w).world
    rw [e.converse_cons_of_not_ends moments none n rest session w hline]
    simp only [List.all_cons, Bool.and_eq_true, Bool.not_eq_true', List.flatMap_cons,
      List.forall_mem_append, List.forall_mem_cons, hfirst, hbehind]
    exact and_and_and_comm

end Converse

end Engine

namespace Program

/-- **The exit status of given lines.** The lines in front of the first one that ends the shell are
executed, and no others. The program succeeds if and only if each of these is a directive or can be
read and all records in the log at the end are of successes. Its exit code is 0 if it succeeds, and
1 if it does not. -/
theorem exit_status_tells_success {σ : Type} (around : Surroundings (σ × Feed)) (w : σ × Feed)
    (occasion : Occasion) {place : Place} {given : Option String} {s : Settings}
    (hs : place.settings given = .ok s) (lines : List String) :
    ∃ e, s.makeEngine around = .ok e ∧
      let executed := executedLines lines
      let start := e.newSession occasion.session
      let c := e.converse none occasion.moments 0 lines start w
      c = e.converse none occasion.moments 0 executed start w ∧
      c.answers.length = executed.length ∧
      ∃ r, perform around w occasion place given (.batch lines) = .ok (some r) ∧
        r.text = String.join (c.answers.map (·.response.printed)) ∧
        (r.ok = true ↔
          (∀ line ∈ executed, Directive.ofLine? line = none →
            ∃ command, Line.parse line = .ok command) ∧
          ∀ x ∈ c.session.state.log, x.success = true) ∧
        (r.ok = false ↔
          (∃ line ∈ executed, Directive.ofLine? line = none ∧
            ∃ err, Line.parse line = .error err) ∨
          ∃ x ∈ c.session.state.log, x.success = false) ∧
        ∀ args, Request.ofArguments (place.lookup pathVariable) args = .task (.batch lines) given →
          (carryOut around w occasion place args).map (·.code) = some (if r.ok then 0 else 1) := by
  obtain ⟨e, he⟩ := exists_engine hs around
  refine ⟨e, he, ?_⟩
  intro executed start c
  obtain ⟨hsame, hlength⟩ := e.converse_executedLines occasion.moments none 0 lines start w
  have hperform : perform around w occasion place given (.batch lines) =
      .ok (some ⟨String.join (c.answers.map (·.response.printed)),
        c.answers.all (!·.response.isFailure)⟩) := by
    simp only [perform, hs, report, he, bind, Except.bind, Except.map]
    rfl
  have hnone : ∀ line ∈ executed, ¬Directive.Ends line := by
    intro line hline
    rw [← Directive.ofLine?_eq_exit_iff]
    simpa using List.mem_takeWhile_imp hline
  have hlog : c.session.state.log = c.answers.flatMap (·.response.records) :=
    e.converse_log occasion.moments none 0 lines start w
  have hok : c.answers.all (!·.response.isFailure) = true ↔
      (∀ line ∈ executed, Directive.ofLine? line = none →
        ∃ command, Line.parse line = .ok command) ∧
      ∀ x ∈ c.session.state.log, x.success = true := by
    have hanswers := e.all_answers_iff occasion.moments 0 hnone start w
    rw [← hsame] at hanswers
    rw [hlog]
    exact hanswers
  refine ⟨hsame, hlength, _, hperform, rfl, hok, ?_, fun args hargs => ?_⟩
  · rw [← Bool.not_eq_true, hok, not_and_or]
    refine or_congr ?_ (by simp)
    push Not
    refine exists_congr fun line => and_congr_right fun _ => and_congr_right fun _ => ?_
    cases Line.parse line <;> simp
  · rw [carryOut, hargs]
    simp only [hperform, Exit.ofReport, Option.map_some]

/-- A line that cannot be read fails in front of the one that ends the shell, and is not looked at
behind it. -/
theorem rejection_around_quit :
    let place : Place := ⟨fun _ => none, fun _ => .absent⟩
    let around : Surroundings (Unit × Feed) :=
      ⟨⟨fun _ _ w => (.notStarted "", w), fun _ _ => none⟩, .constant (.error "")⟩
    let occasion : Occasion := ⟨"s", fun _ => ⟨.epoch, fun _ => ""⟩, 0⟩
    let behind := ["jump 0.2.5", " Quit ", "fly"]
    let infront := ["jump 0.2.5", "fly", "quit"]
    place.settings none = .ok .default ∧
      (∃ e : Engine (Unit × Feed),
        let c := e.converse none occasion.moments 0 behind (e.newSession "s") ((), [])
        c.answers.length = 1 ∧ ∀ x ∈ c.session.state.log, x.success = true) ∧
      (carryOut around ((), []) occasion place ("run" :: infront)).map (·.code) = some 1 := by
  intro place around occasion behind infront
  have hs : place.settings none = .ok .default := settings_of_absent
  refine ⟨hs, ?_, ?_⟩
  · obtain ⟨e, -, -, hlength, r, hperform, -, hok, -⟩ :=
      exit_status_tells_success around ((), []) occasion hs behind
    have hsuccess : (perform around ((), []) occasion place none (.batch behind)).map
        (·.map (·.ok)) = .ok (some true) := by decide +kernel
    rw [hperform] at hsuccess
    exact ⟨e, hlength, (hok.1 (Option.some.inj (Except.ok.inj hsuccess))).2⟩
  · obtain ⟨e, -, -, -, r, -, -, -, hfailed, hcode⟩ :=
      exit_status_tells_success around ((), []) occasion hs infront
    have hno : (Line.parse "fly").isOk = false := by decide +kernel
    have hfly : ∃ err, Line.parse "fly" = .error err := by
      cases hline : Line.parse "fly" with
      | error err => exact ⟨err, rfl⟩
      | ok command =>
        rw [hline] at hno
        cases hno
    have hr : r.ok = false :=
      hfailed.2 (.inl ⟨"fly", by decide +kernel, by decide +kernel, hfly⟩)
    rw [hcode ("run" :: infront) (by decide +kernel), hr]
    rfl

end Program

end ActionTree
