import ActionTree.Program.Basic
import ActionTree.Proofs.Engine.Cancellation
import ActionTree.Proofs.Engine.Transport
import ActionTree.Proofs.Program.Input

/-!
# Lines that are given and lines that are typed

The program takes lines from its arguments or from its input. Behind the first menu it prints the
same responses either way, and both conversations end in the same session, at the first line that
ends the shell or behind the last one, as long as no line takes anything of the input. Three things
could tell them apart: the reader of the input, which takes a carriage return off the end of a line;
the signal that each typed line carries; and the prompts. The first is a blank to all readers of a
line, the second never fires, and the third are printed around the responses.

A fourth thing does tell them apart. The commands of a line are started with the input of the
program, so one that reads takes typed lines before the shell has seen them, and these lines have no
response at all. Both conversations get the same ids, the same moments and the same world to start
in, so all other responses agree to the letter.

* `Directive.ofLine?_eq_exit_iff`: the lines that end the shell.
* `Engine.handle_congr`, `Engine.handle_silent`: blanks at the ends of a line and a signal that
  never fires change nothing of its response.
* `Engine.converse_exits`: where a conversation ends.
* `Engine.talk_of_le`: how many lines are looked at makes no difference to a shell that has ended.
* `Engine.Spares`, `Engine.talk_of_spares`: lines that leave the input alone, typed.
* `Surroundings.Spares`, `Settings.spares_of_surroundings`: where all lines leave it alone.
* `Program.typed_lines_as_given`: the whole account.
* `Program.command_takes_typed_line`: a line that is lost.
-/

namespace ActionTree

open Text

/-! ## What a line is -/

/-- A line that ends the shell: a word for it in any ASCII case, and blanks around it. -/
def Directive.Ends (line : String) : Prop :=
  ∃ before word behind, Blank before ∧ Blank behind ∧ line.toList = before ++ word ++ behind ∧
    (lower word = "exit".toList ∨ lower word = "quit".toList)

theorem Directive.ofLine?_congr {l l' : String} (h : trim l.toList = trim l'.toList) :
    ofLine? l = ofLine? l' := by
  rw [ofLine?, ofLine?, h]

theorem Line.parse_congr {l l' : String} (h : trim l.toList = trim l'.toList) :
    parse l = parse l' := by
  rw [parse, parse, parseChars, parseChars, h]

/-- The trimmed text of a line that ends the shell. -/
theorem Directive.ofLine?_eq_exit {line : String} :
    ofLine? line = some .exit ↔
      lower (trim line.toList) = "exit".toList ∨ lower (trim line.toList) = "quit".toList := by
  rw [← String.ofList_inj, ← @String.ofList_inj _ "quit".toList, String.ofList_toList,
    String.ofList_toList, ofLine?]
  split <;> simp_all

theorem Directive.ofLine?_eq_exit_iff {line : String} : ofLine? line = some .exit ↔ Ends line := by
  rw [ofLine?_eq_exit]
  constructor
  · intro h
    obtain ⟨before, behind, hbefore, hbehind, hline⟩ := exists_eq_trim line.toList
    exact ⟨before, trim line.toList, behind, hbefore, hbehind, hline, h⟩
  · rintro ⟨before, word, behind, hbefore, hbehind, hline, hword⟩
    have hsolid : Solid word := by
      rcases hword with h | h <;> exact solid_of_lower (solid_of_all (by rw [h]; rfl))
    rw [hline, trim_append_right hbehind, trim_append_left hbefore, hsolid.trimmed.trim_eq]
    exact hword

namespace Engine

variable {σ : Type} (e : Engine σ)

/-! ## One line -/

/-- Blanks at the ends of a line change nothing. -/
theorem handle_congr (signal : Option (Signal σ)) (moment : Moment) {l l' : String}
    (h : trim l.toList = trim l'.toList) (session : Session) (w : σ) :
    e.handle signal moment l session w = e.handle signal moment l' session w := by
  rw [handle, handle, Directive.ofLine?_congr h, executeLine, executeLine, Line.parse_congr h]

/-- A signal that never fires is idle in every world. -/
theorem idle_silent : Signal.Idle .silent e Eq where
  fired _ _ _ := rfl
  pass _ _ h := h
  kept _ _ _ _ _ _ _ _ _ _ := rfl
  result _ _ _ _ _ _ _ h := by rw [h]
  work _ _ _ _ _ _ _ h := by rw [h]
  world _ _ _ _ _ _ _ h := by rw [h]

/-- A signal that never fires changes nothing of a response. -/
theorem handle_silent (moment : Moment) (line : String) (session : Session) (w : σ) :
    e.handle (some .silent) moment line session w = e.handle none moment line session w := by
  rw [handle, handle, executeLine, executeLine]
  split
  · rfl
  cases Line.parse line with
  | error err => rfl
  | ok command =>
    obtain ⟨houtcome, hsession, hworld⟩ :=
      execute_of_idle moment e.idle_silent (rfl : w = w) command session
    simp only [Except.map, houtcome, hsession, hworld]

/-- A line that ends the shell does nothing else. -/
theorem handle_of_ends (signal : Option (Signal σ)) (moment : Moment) {line : String}
    (h : Directive.Ends line) (session : Session) (w : σ) :
    e.handle signal moment line session w = ⟨.exit, session, w⟩ := by
  rw [handle, Directive.ofLine?_eq_exit_iff.2 h]
  rfl

/-- No other line ends the shell. -/
theorem isExit_of_not_ends (signal : Option (Signal σ)) (moment : Moment) {line : String}
    (h : ¬Directive.Ends line) (session : Session) (w : σ) :
    (e.handle signal moment line session w).response.isExit = false := by
  rw [← Directive.ofLine?_eq_exit_iff] at h
  rw [handle]
  split
  · rename_i d hd
    cases d with
    | exit => exact absurd hd h
    | _ => rfl
  · cases e.executeLine signal moment line session w <;> rfl

/-! ## Conversations -/

variable (moments : Nat → Moment)

section Exits

variable (signal : Option (Signal σ)) (n : Nat) {line : String} (rest : List String)
  (session : Session) (w : σ)

theorem converse_cons_of_ends (h : Directive.Ends line) :
    e.converse signal moments n (line :: rest) session w = ⟨[], session, w⟩ := by
  rw [converse, e.handle_of_ends signal (moments n) h]
  rfl

theorem converse_cons_of_not_ends (h : ¬Directive.Ends line) :
    e.converse signal moments n (line :: rest) session w =
      let x := e.handle signal (moments n) line session w
      let c := e.converse signal moments (n + 1) rest x.session x.world
      { c with answers := ⟨session.nav.cursor, x.response⟩ :: c.answers } := by
  rw [converse, e.isExit_of_not_ends signal (moments n) h]
  rfl

end Exits

/-- A conversation ends at the first line that ends the shell, if there is one. -/
theorem converse_exits (signal : Option (Signal σ)) (n : Nat) (lines : List String)
    (session : Session) (w : σ) :
    ∃ before, (before = lines ∨ ∃ line rest, lines = before ++ line :: rest ∧ Directive.Ends line) ∧
      (∀ line ∈ before, ¬Directive.Ends line) ∧
      e.converse signal moments n lines session w =
        e.converse signal moments n before session w ∧
      (e.converse signal moments n before session w).answers.length = before.length := by
  -- Each line has the moment behind the last one and finds what the last one left.
  induction lines generalizing n session w with
  | nil => exact ⟨[], .inl rfl, by simp, rfl, rfl⟩
  | cons line rest ih =>
    by_cases hends : Directive.Ends line
    · exact ⟨[], .inr ⟨line, rest, rfl, hends⟩, by simp,
        e.converse_cons_of_ends moments signal n rest session w hends, rfl⟩
    · obtain ⟨before, hbefore, hnone, hsame, hlength⟩ := ih (n + 1)
        (e.handle signal (moments n) line session w).session
        (e.handle signal (moments n) line session w).world
      refine ⟨line :: before, ?_, List.forall_mem_cons.2 ⟨hends, hnone⟩, ?_, ?_⟩
      · rcases hbefore with rfl | ⟨last, behind, rfl, hlast⟩
        · exact .inl rfl
        · exact .inr ⟨last, behind, rfl, hlast⟩
      · rw [e.converse_cons_of_not_ends moments signal n rest session w hends,
          e.converse_cons_of_not_ends moments signal n before session w hends]
        simp only [hsame]
      · rw [e.converse_cons_of_not_ends moments signal n before session w hends]
        exact congrArg (· + 1) hlength

/-! ## Lines that leave the input alone -/

/-- Lines that are handled one after the other spare the input: each has the same response and
leaves the same behind, whatever the input is, and leaves the input itself as it is. -/
def Spares (e : Engine (σ × Feed)) (moments : Nat → Moment) : Nat → List String → Session → σ → Prop
  | _, [], _, _ => True
  | n, line :: rest, s, w =>
    let h := e.handle none (moments n) line s (w, [])
    (∀ feed, e.handle none (moments n) line s (w, feed) =
        ⟨h.response, h.session, (h.world.1, feed)⟩) ∧
      (h.response.isExit = false → e.Spares moments (n + 1) rest h.session h.world.1)

section Talk

variable (e : Engine (σ × Feed)) {limit n : Nat} {held : List UInt8} {session : Session}

/-- A shell that has ended has the same account however many lines are looked at. -/
theorem talk_of_le {w : σ × Feed} {c : Conversation (σ × Feed)} {limit' : Nat}
    (h : e.talk moments limit n held session w = some c) (hle : limit ≤ limit') :
    e.talk moments limit' n held session w = some c := by
  induction limit generalizing limit' n held session w c with
  | zero => cases h
  | succ limit ih =>
    obtain ⟨limit', rfl⟩ := Nat.exists_eq_add_one.2 (Nat.zero_lt_of_lt hle)
    cases htext : (fetch held w.2).text? with
    | none => simpa only [talk, htext] using h
    | some line =>
      simp only [talk, htext] at h ⊢
      split at h
      · rename_i hexit
        rw [if_pos hexit]
        exact h
      · rename_i hexit
        obtain ⟨rest, hrest, rfl⟩ := Option.map_eq_some_iff.1 h
        rw [if_neg hexit, ih hrest (Nat.le_of_succ_le_succ hle)]
        rfl

/-- Typed lines that spare the input are answered like the lines themselves, in whatever pieces
their bytes come, and the shell ends behind them. -/
theorem talk_of_spares {lines : List String} {w : σ} {feed : Feed} (input : Feed)
    (hlines : ∀ line ∈ lines, '\n' ∉ line.toList) (hfeed : [] ∉ feed)
    (hbytes : held ++ feed.flatten = typedBytes lines)
    (hspares : e.Spares moments n lines session w) :
    let c := e.converse none moments n lines session (w, input)
    ∃ left, e.talk moments (lines.length + 1) n held session (w, feed) =
      some ⟨c.answers, c.session, (c.world.1, left)⟩ := by
  -- The lines behind a line are in what is held behind it and what it leaves of the input.
  induction lines generalizing n held session w feed with
  | nil =>
    refine ⟨[], ?_⟩
    simp only [talk, fetch_of_nil hfeed hbytes]
    rfl
  | cons line rest ih =>
    obtain ⟨hline, hrest⟩ := List.forall_mem_cons.1 hlines
    obtain ⟨htext, hnonempty, hbehind⟩ := fetch_typedBytes hline hfeed hbytes
    obtain ⟨hsame, hgoes⟩ := hspares
    have hhandle := fun feed =>
      (e.handle_congr none (moments n) (trim_withoutReturn line) session (w, feed)).trans
        (hsame feed)
    rw [List.length_cons, talk, converse]
    simp only [htext, e.handle_silent, hhandle, hsame input]
    generalize e.handle none (moments n) line session (w, []) = x at hgoes ⊢
    split
    · exact ⟨_, rfl⟩
    · rename_i hexit
      obtain ⟨left, hleft⟩ := ih hrest hnonempty hbehind (hgoes (Bool.not_eq_true _ ▸ hexit))
      exact ⟨left, by rw [hleft, Option.map_some]⟩

end Talk

end Engine

/-! ## Surroundings that leave the input alone -/

section Surroundings

variable {σ : Type}

/-- A shell in a world without an input. -/
def ShellHost.ground (shell : ShellHost (σ × Feed)) : ShellHost σ where
  run command seconds w :=
    ((shell.run command seconds (w, [])).1, (shell.run command seconds (w, [])).2.1)
  interrupt command w := (shell.interrupt command (w, [])).map Prod.fst

/-- A host in a world without an input. -/
def HttpHost.ground (host : HttpHost (σ × Feed)) : HttpHost σ where
  prepare := host.prepare
  answer p w := ((host.answer p (w, [])).1, (host.answer p (w, [])).2.1)
  interrupt p w := (host.interrupt p (w, [])).map Prod.fst

/-- The surroundings in a world without an input. -/
def Surroundings.ground (around : Surroundings (σ × Feed)) : Surroundings σ where
  shell := around.shell.ground
  http := around.http.ground

/-- A command neither looks at the input nor takes anything of it. -/
def ShellHost.Spares (shell : ShellHost (σ × Feed)) (command : String) : Prop :=
  ∀ feed, shell.ground.Along (·, feed) shell command

/-- Requests neither look at the input nor take anything of it. -/
structure HttpHost.Spares (host : HttpHost (σ × Feed)) : Prop where
  answer : ∀ p w feed, host.answer p (w, feed) =
    ((host.ground.answer p w).1, (host.ground.answer p w).2, feed)
  interrupt : ∀ p w feed, host.interrupt p (w, feed) = (host.ground.interrupt p w).map (·, feed)

/-- Allowed commands and requests neither look at the input nor take anything of it. -/
structure Surroundings.Spares (around : Surroundings (σ × Feed)) (policy : CommandPolicy) :
    Prop where
  shell : ∀ command, CommandTool.isAllowed policy command = true → around.shell.Spares command
  http : around.http.Spares

namespace HttpHost.Spares

variable {host : HttpHost (σ × Feed)} (h : host.Spares) (p : Post) (w : σ) (feed : Feed)

include h

theorem send : host.send p (w, feed) =
    ((host.ground.send p w).1, (host.ground.send p w).2, feed) := by
  have hprepare : host.ground.prepare p = host.prepare p := rfl
  unfold HttpHost.send
  rw [hprepare]
  cases host.prepare p with
  | error reason => rfl
  | ok sent => exact h.answer sent w feed

theorem sendInterrupted :
    host.sendInterrupted p (w, feed) = (host.ground.sendInterrupted p w).map (·, feed) := by
  have hprepare : host.ground.prepare p = host.prepare p := rfl
  unfold HttpHost.sendInterrupted
  rw [hprepare]
  cases host.prepare p with
  | error reason => rfl
  | ok sent => exact h.interrupt sent w feed

end HttpHost.Spares

namespace Settings

variable (s : Settings) {around : Surroundings (σ × Feed)} (h : around.Spares s.commands)

include h

/-- Calls in an engine go side by side with and without an input. -/
theorem along_ground (space : Space) (feed : Feed) :
    Engine.Along (·, feed) (s.engineOver around.ground space) (s.engineOver around space) where
  space := rfl
  options := rfl
  handlers name := by
    have htools : Toolbox.Along (·, feed) (.builtin s.commands around.shell.ground)
        (.builtin s.commands around.shell) :=
      Toolbox.along_builtin fun command hallowed => h.shell command hallowed feed
    have hprovider : Option.Rel (Provider.Along (·, feed)) (s.completer? around.ground)
        (s.completer? around) := by
      unfold completer?
      cases s.provider.service? with
      | none => exact .none
      | some service =>
        exact .some {
          complete r stamp w := by simp only [CompletionService.provider, h.http.send]; rfl
          interrupt r w := h.http.sendInterrupted (service.post r) w feed }
    simp only [engineOver, Settings.handlers]
    exact Registry.along_builtin htools hprovider s.provider.completion name

/-- Where commands and requests spare the input, all lines do. -/
theorem spares_of_surroundings {e : Engine (σ × Feed)} (he : s.makeEngine around = .ok e)
    (moments : Nat → Moment) (n : Nat) (lines : List String) (session : Session) (w : σ) :
    e.Spares moments n lines session w := by
  obtain ⟨space, rfl⟩ : ∃ space, e = s.engineOver around space := by
    unfold makeEngine at he
    split at he
    · exact ⟨_, (Except.ok.inj he).symm⟩
    · cases he
  induction lines generalizing n session w with
  | nil => trivial
  | cons line rest ih =>
    refine ⟨fun feed => ?_, fun _ => ih _ _ _⟩
    simp only [Engine.handle_along (s.along_ground h space feed) .none,
      Engine.handle_along (s.along_ground h space []) .none, Engine.Handled.map]

end Settings

end Surroundings

/-! ## Settings that are accepted -/

/-- Settings that pass their check have a tree. -/
theorem Settings.exists_space {s : Settings} (h : s.validate = .ok ()) :
    ∃ space, s.tree.space = .ok space := by
  unfold validate at h
  split at h
  · cases h
  split at h
  · cases h
  split at h
  · exact ⟨_, ‹_›⟩
  · cases h

/-- Settings that pass their check make an engine. -/
theorem Settings.exists_engine_of_validate {s : Settings} (h : s.validate = .ok ()) {σ : Type}
    (around : Surroundings σ) : ∃ e, s.makeEngine around = .ok e := by
  obtain ⟨space, hspace⟩ := exists_space h
  exact ⟨s.engineOver around space, by rw [makeEngine, hspace]⟩

namespace Program

/-- Settings that are accepted pass their check. -/
theorem validate_of_settings {place : Place} {given : Option String} {s : Settings}
    (h : place.settings given = .ok s) : s.validate = .ok () := by
  unfold Place.settings Settings.loadIn at h
  cases hload : Settings.load (place.path given) (place.source (place.path given)) with
  | error err =>
    rw [hload] at h
    cases h
  | ok loaded =>
    rw [hload] at h
    simp only [bind, Except.bind] at h
    split at h
    · cases h
    · rename_i hvalid
      cases h
      exact hvalid

/-- Settings that are accepted make an engine. -/
theorem exists_engine {place : Place} {given : Option String} {s : Settings} {σ : Type}
    (h : place.settings given = .ok s) (around : Surroundings σ) :
    ∃ e, s.makeEngine around = .ok e :=
  Settings.exists_engine_of_validate (validate_of_settings h) around

/-- Where there are no files and no variables, the settings are the default ones. -/
theorem settings_of_absent :
    Place.settings ⟨fun _ => none, fun _ => .absent⟩ none = .ok .default := by decide +kernel

/-- **Lines given and lines typed.** Lines without line feeds have the same responses whether they
are given or typed, up to the first one that ends the shell, and leave the same session and the same
world. For typed lines this takes that no line looks at the input or takes anything of it; then it
holds for all pieces in which the bytes of the lines come. -/
theorem typed_lines_as_given {σ : Type} (around : Surroundings (σ × Feed)) (w : σ)
    (occasion : Occasion) {place : Place} {given : Option String} {s : Settings}
    (hs : place.settings given = .ok s) {lines : List String}
    (hlines : ∀ line ∈ lines, '\n' ∉ line.toList) (hlimit : lines.length < occasion.limit)
    {feed : Feed} (hfeed : [] ∉ feed) (hbytes : feed.flatten = typedBytes lines) (input : Feed) :
    ∃ e, s.makeEngine around = .ok e ∧
      let start := e.newSession occasion.session
      let c := e.converse none occasion.moments 0 lines start (w, input)
      perform around (w, input) occasion place given (.batch lines) =
        .ok (some ⟨String.join (c.answers.map (·.response.printed)),
          c.answers.all (!·.response.isFailure)⟩) ∧
      (e.Spares occasion.moments 0 lines start w →
        (∃ left, e.talk occasion.moments occasion.limit 0 [] start (w, feed) =
          some ⟨c.answers, c.session, (c.world.1, left)⟩) ∧
        perform around (w, feed) occasion place given .interactive =
          .ok (some ⟨e.greeting s.tree.appId start ++
            String.join (c.answers.map fun a => Engine.prompt a.cursor ++ a.response.printed) ++
            Engine.prompt c.session.nav.cursor ++ Engine.farewell, true⟩)) ∧
      ∃ before,
        (before = lines ∨ ∃ line rest, lines = before ++ line :: rest ∧ Directive.Ends line) ∧
        (∀ line ∈ before, ¬Directive.Ends line) ∧
        c = e.converse none occasion.moments 0 before start (w, input) ∧
        (e.converse none occasion.moments 0 before start (w, input)).answers.length =
          before.length := by
  obtain ⟨e, he⟩ := exists_engine hs around
  refine ⟨e, he, ?_⟩
  intro start c
  refine ⟨?_, fun hspares => ?_, e.converse_exits occasion.moments none 0 lines start (w, input)⟩
  · simp only [perform, hs, report, he, bind, Except.bind, Except.map]
    rfl
  · obtain ⟨left, hended⟩ :=
      e.talk_of_spares occasion.moments input hlines hfeed ((List.nil_append _).trans hbytes)
        hspares
    have htalk := e.talk_of_le occasion.moments hended hlimit
    refine ⟨⟨left, htalk⟩, ?_⟩
    simp only [perform, hs, report, he, bind, Except.bind, Except.map, Engine.interactive]
    rw [htalk]
    rfl

/-- Surroundings in which no command is started and no request is answered. -/
def stillSurroundings : Surroundings (Unit × Feed) where
  shell := ⟨fun _ _ w => (.notStarted "", w), fun _ _ => none⟩
  http := .constant (.error "")

/-- Under the default settings three lines get one response: the first one is `menu`, the second one
ends the shell. They are typed, and each is read in two pieces. -/
theorem menu_then_quit :
    let lines := ["menu\r", " Quit ", "back"]
    let feed : Feed := lines.flatMap fun line => [Utf8.encode line.toList, [10]]
    let place : Place := ⟨fun _ => none, fun _ => .absent⟩
    let occasion : Occasion := ⟨"s", fun _ => ⟨.epoch, fun _ => ""⟩, 4⟩
    place.settings none = .ok .default ∧ (∀ line ∈ lines, '\n' ∉ line.toList) ∧
      lines.length < occasion.limit ∧ [] ∉ feed ∧ feed.flatten = typedBytes lines ∧
      ∃ c : Conversation (Unit × Feed), c.answers.length = 1 ∧
        perform stillSurroundings ((), []) occasion place none (.batch lines) =
          .ok (some ⟨String.join (c.answers.map (·.response.printed)),
            c.answers.all (!·.response.isFailure)⟩) ∧
        ∃ greeting, perform stillSurroundings ((), feed) occasion place none .interactive =
          .ok (some ⟨greeting ++
            String.join (c.answers.map fun a => Engine.prompt a.cursor ++ a.response.printed) ++
            Engine.prompt c.session.nav.cursor ++ Engine.farewell, true⟩) := by
  intro lines feed place occasion
  have hs : place.settings none = .ok .default := settings_of_absent
  have hlines : ∀ line ∈ lines, '\n' ∉ line.toList := by decide +kernel
  have hlimit : lines.length < occasion.limit := by decide
  have hfeed : [] ∉ feed := by decide +kernel
  have hbytes : feed.flatten = typedBytes lines := by decide +kernel
  obtain ⟨e, he, hgiven, htyped, before, hbefore, hnone, hc, hlength⟩ :=
    typed_lines_as_given stillSurroundings () occasion hs hlines hlimit hfeed hbytes []
  -- No command is started, so none takes anything of the input.
  have hstill : stillSurroundings.Spares Settings.default.commands :=
    ⟨fun _ _ _ => ⟨fun _ _ => rfl, fun _ => rfl⟩, ⟨fun _ _ _ => rfl, fun _ _ _ => rfl⟩⟩
  obtain ⟨-, htyped⟩ := htyped (Settings.spares_of_surroundings .default hstill he ..)
  refine ⟨hs, hlines, hlimit, hfeed, hbytes, _, ?_, hgiven, _, htyped⟩
  rw [hc, hlength]
  clear hc hlength
  have hquit : Directive.Ends " Quit " := Directive.ofLine?_eq_exit_iff.1 (by decide +kernel)
  rcases hbefore with rfl | ⟨line, rest, hsplit, hends⟩
  · exact absurd hquit (hnone _ (by simp [lines]))
  match before with
  | [] =>
    obtain rfl : "menu\r" = line := (List.cons.inj hsplit).1
    exact absurd (Directive.ofLine?_eq_exit_iff.2 hends) (by decide +kernel)
  | [_] => rfl
  | _ :: word :: _ =>
    obtain rfl : " Quit " = word := (List.cons.inj (List.cons.inj hsplit).2).1
    exact absurd hquit (hnone _ (by simp))

/-- Surroundings in which every command prints all that it finds in the input. -/
def readingSurroundings : Surroundings (Unit × Feed) where
  shell := ⟨fun _ _ w => (.finished ⟨w.2.flatten, [], some 0⟩, (w.1, [])), fun _ _ => none⟩
  http := .constant (.error "")

/-- Two lines that are given have two responses. Typed one after the other they have one: the
command of the first one takes the second one. -/
theorem command_takes_typed_line :
    let command := "jump 0.5.1 " ++
      "\x7b\"tool_name\": \"bash_tool\", \"parameters\": \x7b\"command\": \"cat\"\x7d\x7d"
    let lines := [command, "menu"]
    let feed : Feed := [typedBytes [command], typedBytes ["menu"]]
    let moments (_ : Nat) : Moment := ⟨.epoch, fun _ => ""⟩
    (∀ line ∈ lines, '\n' ∉ line.toList) ∧ [] ∉ feed ∧ feed.flatten = typedBytes lines ∧
      ∃ e, Settings.default.makeEngine readingSurroundings = .ok e ∧
        (e.converse none moments 0 lines (e.newSession "s") ((), [])).answers.length = 2 ∧
        ∃ c, e.talk moments 3 0 [] (e.newSession "s") ((), feed) = some c ∧
          c.answers.length = 1 := by
  intro command lines feed moments
  have hlines : ∀ line ∈ lines, '\n' ∉ line.toList := by simp [lines, command]
  refine ⟨hlines, by decide +kernel, by decide +kernel, ?_⟩
  have hgiven : (Settings.default.makeEngine readingSurroundings).map (fun e =>
      (e.converse none moments 0 lines (e.newSession "s") ((), [])).answers.length) = .ok 2 := by
    decide +kernel
  have htyped : (Settings.default.makeEngine readingSurroundings).map (fun e =>
      (e.talk moments 3 0 [] (e.newSession "s") ((), feed)).map (·.answers.length)) =
      .ok (some 1) := by
    decide +kernel
  generalize Settings.default.makeEngine readingSurroundings = made at hgiven htyped
  cases made with
  | error err => cases hgiven
  | ok e =>
    obtain ⟨c, hc, hone⟩ := Option.map_eq_some_iff.1 (Except.ok.inj htyped)
    exact ⟨e, rfl, Except.ok.inj hgiven, c, hc, hone⟩

end Program

end ActionTree
