import ActionTree.Engine.Shell
import ActionTree.Proofs.Engine.Step
import Mathlib.Data.List.Induction

/-!
# The log of a shell

A shell is given lines, one after the other. Each may carry a signal, has its own moment and finds
the world in any state at all, so every run of a shell is a list of inputs here. The log of its
session only grows: a line that is executed adds the records of its outcome, every other line adds
nothing, and each record carries its place.

* `Engine.transcript`: the session and the responses of a shell after some lines.
* `Engine.answer_log`: what one line adds to the log.
* `Engine.transcript_log`: the log is what the responses report, in order.
* `Engine.log_appends_outcomes`: the whole account, for every run and the line behind it.
-/

namespace ActionTree

/-- A line given to a shell. -/
structure Input (σ : Type) where
  line : String
  /-- The signal that may cancel the line. -/
  signal : Option (Signal σ)
  moment : Moment
  /-- The world that the line finds. -/
  world : σ

/-- The session of a shell after some lines, and the responses to them, the oldest first. -/
structure Transcript where
  session : Session
  responses : List Response

/-- The records that a response reports as new. -/
def Response.records : Response → List Record
  | .outcome o => o.steps
  | _ => []

namespace Engine

variable {σ : Type} (e : Engine σ)

/-- What a session answers to an input. -/
@[irreducible] def answer (i : Input σ) (session : Session) : Handled σ :=
  e.handle i.signal i.moment i.line session i.world

/-- A transcript with one more line. -/
def goOn (t : Transcript) (i : Input σ) : Transcript :=
  ⟨(e.answer i t.session).session, t.responses ++ [(e.answer i t.session).response]⟩

/-- A new session and what it answers to lines. -/
def transcript (id : String) (inputs : List (Input σ)) : Transcript :=
  inputs.foldl e.goOn ⟨e.newSession id, []⟩

@[simp] theorem transcript_nil (id : String) : e.transcript id [] = ⟨e.newSession id, []⟩ := rfl

@[simp] theorem transcript_concat (id : String) (inputs : List (Input σ)) (i : Input σ) :
    e.transcript id (inputs ++ [i]) = e.goOn (e.transcript id inputs) i := by
  simp [transcript]

@[simp] theorem goOn_session (t : Transcript) (i : Input σ) :
    (e.goOn t i).session = (e.answer i t.session).session := rfl

@[simp] theorem goOn_responses (t : Transcript) (i : Input σ) :
    (e.goOn t i).responses = t.responses ++ [(e.answer i t.session).response] := rfl

/-! ## One line -/

/-- A directive reports no records of its own. -/
@[simp] theorem records_obey (d : Directive) (session : Session) :
    (e.obey d session).1.records = [] := by
  cases d <;> rfl

@[simp] theorem obey_state (d : Directive) (session : Session) :
    (e.obey d session).2.state = session.state := by
  cases d <;> rfl

@[simp] theorem obey_id (d : Directive) (session : Session) :
    (e.obey d session).2.id = session.id := by
  cases d <;> rfl

theorem answer_directive {i : Input σ} {d : Directive} (session : Session)
    (h : Directive.ofLine? i.line = some d) :
    (e.answer i session).response = (e.obey d session).1 ∧
      (e.answer i session).session = (e.obey d session).2 := by
  unfold answer handle
  rw [h]
  exact ⟨rfl, rfl⟩

theorem answer_rejected {i : Input σ} {err : ParseError} (session : Session)
    (hd : Directive.ofLine? i.line = none) (h : Line.parse i.line = .error err) :
    (e.answer i session).response = .rejected err ∧ (e.answer i session).session = session := by
  unfold answer handle executeLine
  rw [hd, h]
  exact ⟨rfl, rfl⟩

theorem answer_command {i : Input σ} {c : Command} (session : Session)
    (hd : Directive.ofLine? i.line = none) (h : Line.parse i.line = .ok c) :
    (e.answer i session).response =
        .outcome (e.execute i.signal i.moment c session i.world).outcome ∧
      (e.answer i session).session = (e.execute i.signal i.moment c session i.world).session := by
  unfold answer handle executeLine
  rw [hd, h]
  exact ⟨rfl, rfl⟩

/-- A line is a directive, rejected or a command. -/
theorem line_cases (line : String) :
    (∃ d, Directive.ofLine? line = some d) ∨
      Directive.ofLine? line = none ∧
        ((∃ err, Line.parse line = .error err) ∨ ∃ c, Line.parse line = .ok c) := by
  cases hd : Directive.ofLine? line with
  | some d => exact .inl ⟨d, rfl⟩
  | none =>
    refine .inr ⟨rfl, ?_⟩
    cases Line.parse line with
    | error err => exact .inl ⟨err, rfl⟩
    | ok c => exact .inr ⟨c, rfl⟩

/-- A line adds to the log what its response reports. -/
theorem answer_log (i : Input σ) (session : Session) :
    (e.answer i session).session.state.log =
      session.state.log ++ (e.answer i session).response.records := by
  rcases line_cases i.line with ⟨d, hd⟩ | ⟨hd, ⟨err, h⟩ | ⟨c, h⟩⟩
  · obtain ⟨hresponse, hsession⟩ := e.answer_directive session hd
    rw [hresponse, hsession, records_obey, obey_state, List.append_nil]
  · obtain ⟨hresponse, hsession⟩ := e.answer_rejected session hd h
    rw [hresponse, hsession]
    exact (List.append_nil _).symm
  · obtain ⟨hresponse, hsession⟩ := e.answer_command session hd h
    rw [hresponse, hsession, execute_log]
    rfl

theorem answer_numbered (i : Input σ) (session : Session) (hlog : Numbered session.state.log) :
    Numbered (e.answer i session).session.state.log := by
  rcases line_cases i.line with ⟨d, hd⟩ | ⟨hd, ⟨err, h⟩ | ⟨c, h⟩⟩
  · rw [(e.answer_directive session hd).2, obey_state]
    exact hlog
  · rw [(e.answer_rejected session hd h).2]
    exact hlog
  · rw [(e.answer_command session hd h).2]
    exact e.execute_numbered i.signal i.moment hlog

/-! ## All lines -/

/-- What a new session has and every line keeps every reachable session has. -/
theorem transcript_invariant {P : Session → Prop} {id : String} (hnew : P (e.newSession id))
    (hline : ∀ i session, P session → P (e.answer i session).session) (inputs : List (Input σ)) :
    P (e.transcript id inputs).session := by
  induction inputs using List.reverseRecOn with
  | nil => exact hnew
  | append_singleton inputs i ih =>
    rw [transcript_concat, goOn_session]
    exact hline i _ ih

@[simp] theorem transcript_id (id : String) (inputs : List (Input σ)) :
    (e.transcript id inputs).session.id = id := by
  refine e.transcript_invariant (P := fun s => s.id = id) rfl (fun i session h => ?_) inputs
  rcases line_cases i.line with ⟨d, hd⟩ | ⟨hd, ⟨err, hline⟩ | ⟨c, hline⟩⟩
  · rw [(e.answer_directive session hd).2, obey_id, h]
  · rw [(e.answer_rejected session hd hline).2, h]
  · rw [(e.answer_command session hd hline).2, execute_id, h]

theorem transcript_numbered (id : String) (inputs : List (Input σ)) :
    Numbered (e.transcript id inputs).session.state.log :=
  e.transcript_invariant (P := fun s => Numbered s.state.log) numbered_nil
    e.answer_numbered inputs

/-- The log of a shell is what its responses report, in order. -/
theorem transcript_log (id : String) (inputs : List (Input σ)) :
    (e.transcript id inputs).session.state.log =
      (e.transcript id inputs).responses.flatMap Response.records := by
  induction inputs using List.reverseRecOn with
  | nil => rfl
  | append_singleton inputs i ih =>
    rw [transcript_concat, goOn_session, answer_log, ih, goOn_responses]
    simp

/-- **The log of a shell.** After any lines, one more line leaves the old log in front of the new
one, in which each record carries its place; no step of it is ever out of sequence. Directives and
rejected lines add nothing, a command adds the steps of its outcome, and `history` answers with the
steps of all outcomes before it. -/
theorem log_appends_outcomes (id : String) (inputs : List (Input σ)) (i : Input σ) :
    let before := e.transcript id inputs
    let after := e.answer i before.session
    before.session.state.log <+: after.session.state.log ∧
      Numbered after.session.state.log ∧
      (∀ (step : Step) (session : Session) (w : σ),
        let s := e.runStep i.signal i.moment step session w
        (State.mk session.state.log s.session.state.work).append s.record = .ok s.session.state) ∧
      (∀ d, Directive.ofLine? i.line = some d →
        after.session.state.log = before.session.state.log) ∧
      (∀ err, Directive.ofLine? i.line = none → Line.parse i.line = .error err →
        after.response = .rejected err ∧
          after.session.state.log = before.session.state.log) ∧
      (∀ c, Directive.ofLine? i.line = none → Line.parse i.line = .ok c →
        ∃ o, after.response = .outcome o ∧
          after.session.state.log = before.session.state.log ++ o.steps) ∧
      (Directive.ofLine? i.line = some .history →
        after.response = .history (before.responses.flatMap Response.records)) := by
  intro before after
  have hlog : after.session.state.log = before.session.state.log ++ after.response.records :=
    e.answer_log i before.session
  have hnumbered : Numbered after.session.state.log :=
    e.answer_numbered i before.session (e.transcript_numbered id inputs)
  refine ⟨⟨_, hlog.symm⟩, hnumbered, e.runStep_append i.signal i.moment, ?_, ?_, ?_, ?_⟩
  · intro d hd
    obtain ⟨-, hsession⟩ := e.answer_directive before.session hd
    rw [hsession, obey_state]
  · intro err hd h
    obtain ⟨hresponse, hsession⟩ := e.answer_rejected before.session hd h
    rw [hresponse, hsession]
    exact ⟨rfl, rfl⟩
  · intro c hd h
    obtain ⟨hresponse, -⟩ := e.answer_command before.session hd h
    refine ⟨_, hresponse, ?_⟩
    rw [hlog, hresponse, Response.records]
  · intro hd
    obtain ⟨hresponse, -⟩ := e.answer_directive before.session hd
    rw [hresponse, obey, e.transcript_log id inputs]

end Engine

/-- A line without a signal, at the epoch. -/
def Input.plain (line : String) : Input Unit := ⟨line, none, ⟨.epoch, fun _ => ""⟩, ()⟩

namespace Engine

/-- A menu over two actions: one answers with its arguments, the other has no handler. -/
def sample : Engine Unit where
  space := ⟨[.plain ⟨0, [2]⟩ "Lost" (some "nobody"), .plain ⟨0, [1]⟩ "Echo" (some "echo"),
    .plain .root "Start" none], [.root, ⟨0, [1]⟩, ⟨0, [2]⟩], [(.root, [⟨0, [1]⟩, ⟨0, [2]⟩])]⟩
  handlers := .ofHandlers [.ofAction "echo" "" fun args c => .ok (args, c.work)]
  options := ⟨false⟩

/-- Of a jump, a line that is rejected and a history, only the jump is in the log. -/
theorem history_behind_jump_and_rejection :
    Directive.ofLine? "history" = some .history ∧
      (sample.answer (.plain "history")
        (sample.transcript "s" [.plain "jump 0.1", .plain "fly"]).session).response =
      .history [.ofOutput 1 ⟨0, [1]⟩ (.obj []) (.obj []) .epoch] := by
  have h : Directive.ofLine? "history" = some .history := by decide
  obtain ⟨-, -, -, -, -, -, hhistory⟩ := sample.log_appends_outcomes "s"
    [.plain "jump 0.1", .plain "fly"] (.plain "history")
  exact ⟨h, (hhistory h).trans (congrArg Response.history (by decide +kernel))⟩

end Engine

end ActionTree
