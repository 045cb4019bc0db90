import ActionTree.Program.Basic
import ActionTree.Proofs.Completion.Service
import ActionTree.Proofs.Engine.Transport

/-!
# The key stays secret

Settings that differ in nothing but their key are shown alike, and the shells that are made from
them answer alike, if what answers their requests treats the two keys alike. The requests of the two
shells differ in the value of one header: it is there that a key goes, and nowhere else.

What is said of two shells is said of runs with the same moments and the same id of the session, so
the ids and the times that a run is supplied with are no difference either.

* `Settings.withKey`: settings with a key.
* `HttpHost.BlindTo`: a host that treats two keys alike.
* `CompletionService.along_provider`: requests under two keys, side by side.
* `Settings.along_engineOver`: engines under two keys, side by side.
* `Settings.key_is_never_observable`: the whole account.
-/

namespace ActionTree

variable {σ : Type}

/-! ## Requests that are kept -/

/-- A shell in a world with something beside it. -/
def ShellHost.beside (shell : ShellHost σ) (ρ : Type) : ShellHost (σ × ρ) where
  run command seconds w :=
    ((shell.run command seconds w.1).1, (shell.run command seconds w.1).2, w.2)
  interrupt command w := (shell.interrupt command w.1).map (·, w.2)

/-- A signal in a world with something beside it. -/
def Signal.beside (s : Signal σ) (ρ : Type) : Signal (σ × ρ) where
  fired w := s.fired w.1
  pass w := (s.pass w.1, w.2)

/-- The surroundings in a world that keeps the requests, the oldest first. -/
def Surroundings.recorded (around : Surroundings σ) : Surroundings (σ × List Post) where
  shell := around.shell.beside (List Post)
  http := around.http.recorded

section Beside

variable {ρ ρ' : Type} (g : ρ → ρ')

theorem ShellHost.along_beside (shell : ShellHost σ) (command : String) :
    ShellHost.Along (Prod.map id g) (shell.beside ρ) (shell.beside ρ') command where
  run _ _ := rfl
  interrupt w := by
    simp only [beside, Option.map_map]
    rfl

theorem Signal.along_beside (signal : Option (Signal σ)) :
    Option.Rel (Signal.Along (Prod.map id g)) (signal.map (·.beside ρ))
      (signal.map (·.beside ρ')) := by
  cases signal with
  | none => exact .none
  | some s => exact .some ⟨fun _ => rfl, fun _ => rfl⟩

end Beside

/-! ## Keys in requests -/

namespace CompletionService

/-- The headers of a request under a key. -/
def headers (key : String) : List (String × String) :=
  [("Authorization", "Bearer " ++ key), ("Content-Type", "application/json")]

/-- The headers of a request under a key, as they are sent. -/
def sentHeaders (key : String) : List (String × String) :=
  [("Authorization", Http.stripped ("Bearer " ++ key)), ("Content-Type", "application/json")]

end CompletionService

/-- The request under a key, as it is sent. -/
def Post.withKey (key : String) (p : Post) : Post :=
  { p with headers := CompletionService.sentHeaders key }

/-- A host treats requests under two keys alike: it sends both or neither, as a key with a control
character cannot stand in a header, and what comes of the one comes of the other. -/
structure HttpHost.BlindTo (host : HttpHost σ) (k l : String) : Prop where
  prepare : ∀ p : Post, host.prepare { p with headers := CompletionService.headers l } =
    (host.prepare { p with headers := CompletionService.headers k }).map (·.withKey l)
  answer : ∀ (p : Post) w, host.answer (p.withKey k) w = host.answer (p.withKey l) w
  interrupt : ∀ (p : Post) w, host.interrupt (p.withKey k) w = host.interrupt (p.withKey l) w

namespace HttpHost.ChecksHeaders

variable {host : HttpHost σ} (hhost : host.ChecksHeaders)

include hhost

/-- A request under a key is sent with the headers of the key, if it is sent at all. -/
theorem eq_withKey_of_prepare {key : String} {p sent : Post}
    (h : host.prepare { p with headers := CompletionService.headers key } = .ok sent) :
    sent = p.withKey key := by
  by_cases hlegal : Post.isLegal { p with headers := CompletionService.headers key } = true
  · rw [hhost.sends _ hlegal] at h
    exact (Except.ok.inj h).symm
  · obtain ⟨reason, hreason⟩ := hhost.refuses _ (Bool.not_eq_true _ ▸ hlegal)
    rw [hreason] at h
    cases h

/-- A host that checks headers treats a key like itself. -/
theorem blindTo_self (k : String) : host.BlindTo k k where
  prepare p := by
    cases hsent : host.prepare { p with headers := CompletionService.headers k } with
    | error reason => rfl
    | ok sent =>
      rw [hhost.eq_withKey_of_prepare hsent]
      rfl
  answer _ _ := rfl
  interrupt _ _ := rfl

end HttpHost.ChecksHeaders

namespace CompletionService

variable {host : HttpHost σ} {k l : String} (s : CompletionService)

section Blind

variable (hhost : host.ChecksHeaders) (h : host.BlindTo k l) (r : CompletionRequest) (w : σ)

include h

/-- What is sent under the other key differs in its headers alone, and a refusal not at all. -/
theorem prepare_of_blind :
    host.prepare ({ s with key := l }.post r) =
      (host.prepare ({ s with key := k }.post r)).map (·.withKey l) :=
  h.prepare ⟨s.url, [], body r⟩

/-- The requests that are kept under the other key differ in their headers. -/
theorem sent_of_blind :
    (host.prepare ({ s with key := l }.post r)).toOption.toList =
      (host.prepare ({ s with key := k }.post r)).toOption.toList.map (Post.withKey l) := by
  rw [s.prepare_of_blind h]
  cases host.prepare ({ s with key := k }.post r) <;> rfl

include hhost

theorem send_of_blind :
    host.send ({ s with key := l }.post r) w = host.send ({ s with key := k }.post r) w := by
  unfold HttpHost.send
  rw [s.prepare_of_blind h]
  cases hsent : host.prepare ({ s with key := k }.post r) with
  | error reason => rfl
  | ok sent =>
    obtain rfl := hhost.eq_withKey_of_prepare (p := ⟨s.url, [], body r⟩) hsent
    exact (h.answer _ w).symm

theorem sendInterrupted_of_blind :
    host.sendInterrupted ({ s with key := l }.post r) w =
      host.sendInterrupted ({ s with key := k }.post r) w := by
  unfold HttpHost.sendInterrupted
  rw [s.prepare_of_blind h]
  cases hsent : host.prepare ({ s with key := k }.post r) with
  | error reason => rfl
  | ok sent =>
    obtain rfl := hhost.eq_withKey_of_prepare (p := ⟨s.url, [], body r⟩) hsent
    exact (h.interrupt _ w).symm

/-- A service is the same provider under both keys. -/
theorem provider_of_blind :
    { s with key := l }.provider host = { s with key := k }.provider host := by
  simp only [provider, s.send_of_blind hhost h, s.sendInterrupted_of_blind hhost h]

/-- Where requests are kept, those of the two providers differ in their headers. -/
theorem along_provider :
    Provider.Along (Prod.map id (List.map (Post.withKey l)))
      ({ s with key := k }.provider host.recorded)
      ({ s with key := l }.provider host.recorded) where
  complete r stamp w := by
    obtain ⟨w, posts⟩ := w
    simp only [provider, Prod.map, id, HttpHost.send_recorded, s.send_of_blind hhost h,
      s.sent_of_blind h, List.map_append]
  interrupt r w := by
    obtain ⟨w, posts⟩ := w
    simp only [provider, Prod.map, id, HttpHost.sendInterrupted_recorded,
      s.sendInterrupted_of_blind hhost h, s.sent_of_blind h, Option.map_map]
    refine congrArg (Option.map · _) (funext fun w' => ?_)
    rw [Function.comp_apply, Prod.map, List.map_append]
    rfl

end Blind

end CompletionService

/-! ## Settings with a key -/

namespace Settings

/-- The settings with a key. -/
def withKey (s : Settings) (key : String) : Settings :=
  { s with provider := { s.provider with apiKey := some key } }

variable {k l : String} (s : Settings) (around : Surroundings σ)
  (hhost : around.http.ChecksHeaders)

include hhost in
theorem makeEngine_of_blind (h : around.http.BlindTo k l) :
    (s.withKey l).makeEngine around = (s.withKey k).makeEngine around := by
  have hprovider : (s.withKey l).completer? around = (s.withKey k).completer? around :=
    congrArg some
      (CompletionService.provider_of_blind ⟨s.provider.name, s.provider.apiUrl, k⟩ hhost h)
  have hover : ∀ space,
      (s.withKey l).engineOver around space = (s.withKey k).engineOver around space := by
    intro space
    rw [engineOver, engineOver, handlers, handlers, hprovider]
    rfl
  simp only [makeEngine, hover]
  rfl

/-- The handlers under a key know it by their provider alone. -/
theorem handlers_withKey (key : String) :
    (s.withKey key).handlers around =
      .builtin (.builtin s.commands around.shell) ((s.withKey key).completer? around)
        s.provider.completion := by
  have hcompletion : (s.withKey key).provider.completion = s.provider.completion := rfl
  rw [handlers, hcompletion]
  rfl

section Kept

include hhost

/-- Where requests are kept, calls in engines under two keys go side by side. -/
theorem along_engineOver (h : around.http.BlindTo k l) (space : Space) :
    Engine.Along (Prod.map id (List.map (Post.withKey l)))
      ((s.withKey k).engineOver around.recorded space)
      ((s.withKey l).engineOver around.recorded space) where
  space := rfl
  options := rfl
  handlers name := by
    have htools : Toolbox.Along (Prod.map id (List.map (Post.withKey l)))
        (.builtin s.commands around.recorded.shell) (.builtin s.commands around.recorded.shell) :=
      Toolbox.along_builtin fun command _ => ShellHost.along_beside _ around.shell command
    have hprovider : Option.Rel (Provider.Along (Prod.map id (List.map (Post.withKey l))))
        ((s.withKey k).completer? around.recorded) ((s.withKey l).completer? around.recorded) :=
      .some (CompletionService.along_provider ⟨s.provider.name, s.provider.apiUrl, k⟩ hhost h)
    simp only [engineOver, handlers_withKey]
    exact Registry.along_builtin htools hprovider s.provider.completion name

/-- What a shell answers and keeps under the other key, and the requests that it makes. -/
theorem converse_of_blind (h : around.http.BlindTo k l) (space : Space)
    (signal : Option (Signal σ)) (moments : Nat → Moment) (n : Nat) (lines : List String)
    (session : Session) (w : σ) (posts : List Post) :
    let c := ((s.withKey k).engineOver around.recorded space).converse
      (signal.map (·.beside (List Post))) moments n lines session (w, posts)
    ((s.withKey l).engineOver around.recorded space).converse
        (signal.map (·.beside (List Post))) moments n lines session
        (w, posts.map (Post.withKey l)) =
      ⟨c.answers, c.session, c.world.1, c.world.2.map (Post.withKey l)⟩ :=
  Engine.converse_along (s.along_engineOver around hhost h space)
    (Signal.along_beside (List.map (Post.withKey l)) signal) moments n lines session (w, posts)

/-- All requests of a shell have the headers of its key. -/
theorem headers_of_converse (space : Space) (signal : Option (Signal σ)) (moments : Nat → Moment)
    (n : Nat) (lines : List String) (session : Session) (w : σ) :
    ∀ p ∈ (((s.withKey k).engineOver around.recorded space).converse
        (signal.map (·.beside (List Post))) moments n lines session (w, [])).world.2,
      p.headers = CompletionService.sentHeaders k := by
  -- To set the key of the requests to the one that they have makes no difference.
  have hsame := s.converse_of_blind around hhost (hhost.blindTo_self k) space signal moments n
    lines session w []
  have hposts := congrArg (fun c => c.world.2) hsame
  intro p hp
  simp only [List.map_nil] at hposts
  rw [hposts] at hp
  obtain ⟨q, -, rfl⟩ := List.mem_map.1 hp
  rfl

end Kept

/-- What a task prints, and whether it succeeds, is the same under both keys. -/
theorem report_of_blind (around : Surroundings (σ × Feed)) (hhost : around.http.ChecksHeaders)
    (h : around.http.BlindTo k l) (w : σ × Feed) (occasion : Program.Occasion) (path : String)
    (t : Program.Task) :
    Program.report around w occasion path (s.withKey l) t =
      Program.report around w occasion path (s.withKey k) t := by
  cases t with
  | settings defaults => cases defaults <;> rfl
  | tree => rfl
  | batch => simp only [Program.report, s.makeEngine_of_blind around hhost h]
  | interactive =>
    simp only [Program.report, s.makeEngine_of_blind around hhost h]
    rfl

/-- The engine of settings with a key is one over their tree. -/
theorem exists_of_makeEngine {e : Engine σ} (h : (s.withKey k).makeEngine around = .ok e) :
    ∃ space, e = (s.withKey k).engineOver around space ∧
      ∀ key, (s.withKey key).makeEngine around = .ok ((s.withKey key).engineOver around space) := by
  have htree : ∀ key, (s.withKey key).tree = s.tree := fun _ => rfl
  simp only [makeEngine, htree] at h ⊢
  cases hspace : s.tree.space with
  | error err =>
    rw [hspace] at h
    cases h
  | ok space =>
    rw [hspace] at h
    exact ⟨space, (Except.ok.inj h).symm, fun _ => rfl⟩

/-- **The key is never observable.** Settings that differ in nothing but their key are shown alike.
In surroundings that treat the two keys alike every task prints the same, and two shells answer all
lines alike and leave the same session and the same world outside. They post the same bodies to the
same addresses, and the key stands in the header for it and nowhere else. -/
theorem key_is_never_observable (s : Settings) (k l : String) :
    (s.withKey k).shown = (s.withKey l).shown ∧
    (s.withKey k).summary = (s.withKey l).summary ∧
    (s.withKey k).provider.summary = (s.withKey l).provider.summary ∧
    (∀ path, (s.withKey k).listing path = (s.withKey l).listing path) ∧
    (∀ {σ : Type} (around : Surroundings (σ × Feed)), around.http.ChecksHeaders →
      around.http.BlindTo k l → ∀ w occasion path t,
        Program.report around w occasion path (s.withKey l) t =
          Program.report around w occasion path (s.withKey k) t) ∧
    ∀ {σ : Type} (around : Surroundings σ), around.http.ChecksHeaders → around.http.BlindTo k l →
      ∀ e, (s.withKey k).makeEngine around.recorded = .ok e →
        ∃ e', (s.withKey l).makeEngine around.recorded = .ok e' ∧
          ∀ (signal : Option (Signal σ)) (moments : Nat → Moment) (id : String)
            (lines : List String) (w : σ),
            let c := e.converse (signal.map (·.beside (List Post))) moments 0 lines
              (e.newSession id) (w, [])
            let c' := e'.converse (signal.map (·.beside (List Post))) moments 0 lines
              (e'.newSession id) (w, [])
            c'.answers = c.answers ∧ c'.session = c.session ∧ c'.world.1 = c.world.1 ∧
            c'.world.2.map (fun p => (p.url, p.body)) = c.world.2.map (fun p => (p.url, p.body)) ∧
            (∀ p ∈ c.world.2, p.headers = CompletionService.sentHeaders k) ∧
            ∀ p ∈ c'.world.2, p.headers = CompletionService.sentHeaders l := by
  refine ⟨rfl, rfl, rfl, fun _ => rfl, fun around hhost hblind => s.report_of_blind around hhost
    hblind, fun {σ} around hhost hblind e he => ?_⟩
  obtain ⟨space, rfl, hengine⟩ := s.exists_of_makeEngine around.recorded he
  refine ⟨_, hengine l, fun signal moments id lines w => ?_⟩
  intro c c'
  have hstart := Engine.newSession_along (s.along_engineOver around hhost hblind space) id
  have hside : c' = ⟨c.answers, c.session, c.world.1, c.world.2.map (Post.withKey l)⟩ := by
    simp only [c', hstart]
    exact s.converse_of_blind around hhost hblind space signal moments 0 lines _ w []
  refine ⟨congrArg (·.answers) hside, congrArg (·.session) hside,
    congrArg (fun x => x.world.1) hside, ?_,
    s.headers_of_converse around hhost space signal moments 0 lines _ w,
    s.headers_of_converse around hhost space signal moments 0 lines _ w⟩
  rw [hside, List.map_map]
  rfl

/-- Surroundings in which every request has the same reply. -/
def parrot : Surroundings Unit where
  shell := ⟨fun _ _ w => (.notStarted "", w), fun _ _ => none⟩
  http :=
    let body := "\x7b\"choices\": [\x7b\"message\": " ++
      "\x7b\"role\": \"assistant\", \"content\": \"Yes.\"\x7d\x7d]\x7d"
    .constant (.ok ⟨200, [], body⟩)

/-- A question under either of two keys has the same answer, and its request says the key. -/
theorem question_under_two_keys :
    let moments (_ : Nat) : Moment := ⟨.epoch, fun _ => ""⟩
    let lines := ["jump 0.1.1 \x7b\"message\": \"Well?\"\x7d"]
    parrot.http.ChecksHeaders ∧ parrot.http.BlindTo "k" "l" ∧
    ∃ e e', (Settings.default.withKey "k").makeEngine parrot.recorded = .ok e ∧
      (Settings.default.withKey "l").makeEngine parrot.recorded = .ok e' ∧
      let c := e.converse none moments 0 lines (e.newSession "s") ((), [])
      let c' := e'.converse none moments 0 lines (e'.newSession "s") ((), [])
      c'.answers = c.answers ∧ c.world.2.length = 1 ∧ c'.world.2.length = 1 ∧
      (∀ p ∈ c.world.2, p.headers.lookup "Authorization" = some "Bearer k") ∧
      ∀ p ∈ c'.world.2, p.headers.lookup "Authorization" = some "Bearer l" := by
  intro moments lines
  have hhost : parrot.http.ChecksHeaders := HttpHost.checksHeaders_constant _
  have hlegal : ∀ key ∈ ["k", "l"],
      (CompletionService.headers key).all (·.2.toList.all Http.isLegal) = true := by decide +kernel
  have hsends : ∀ key ∈ ["k", "l"], ∀ p : Post,
      parrot.http.prepare { p with headers := CompletionService.headers key } =
        .ok (p.withKey key) := fun key hkey p => hhost.sends _ (hlegal key hkey)
  have hblind : parrot.http.BlindTo "k" "l" := by
    refine ⟨fun p => ?_, fun _ _ => rfl, fun _ _ => rfl⟩
    rw [hsends "k" (by simp), hsends "l" (by simp)]
    rfl
  obtain ⟨-, -, -, -, -, hshell⟩ := key_is_never_observable Settings.default "k" "l"
  have hengine := hshell parrot hhost hblind
  have hposts : (((Settings.default.withKey "k").makeEngine parrot.recorded).map fun e =>
      (e.converse none moments 0 lines (e.newSession "s") ((), [])).world.2.length) = .ok 1 := by
    decide +kernel
  obtain ⟨e, he⟩ : ∃ e, (Settings.default.withKey "k").makeEngine parrot.recorded = .ok e := by
    generalize (Settings.default.withKey "k").makeEngine parrot.recorded = made at hposts
    cases made with
    | error err => cases hposts
    | ok e => exact ⟨e, rfl⟩
  obtain ⟨e', he', hsame⟩ := hengine e he
  have hboth := hsame none moments "s" lines ()
  rw [Option.map_none] at hboth
  obtain ⟨hanswers, -, -, hrequests, hk, hl⟩ := hboth
  rw [he] at hposts
  have hone : (e.converse none moments 0 lines (e.newSession "s") ((), [])).world.2.length = 1 :=
    Except.ok.inj hposts
  have hlength := congrArg List.length hrequests
  rw [List.length_map, List.length_map] at hlength
  refine ⟨hhost, hblind, e, e', he, he', hanswers, hone, hlength.trans hone, fun p hp => ?_,
    fun p hp => ?_⟩
  · rw [hk p hp]
    decide +kernel
  · rw [hl p hp]
    decide +kernel

end Settings

end ActionTree
