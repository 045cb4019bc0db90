import ActionTree.Completion.Service
import ActionTree.Proofs.Agent.Conversation
import ActionTree.Proofs.Document.Records
import Mathlib.Algebra.Group.Nat.Defs

/-!
# What a completion service is asked and what it answers

A request says everything that its conversation says, under the address of the service. A response
is a completion if and only if its status is 200 and its body offers one; then the first choice
counts, whoever is said to speak in it. Behind status 429 there is a delay, which the response names
or which is 5 seconds.

* `HttpHost.recorded`: a host in a world that keeps the requests it gets.
* `CompletionService.Conveys`, `CompletionService.conveys_post`: what a request says.
* `CompletionService.send_of_fits`, `CompletionService.send_of_not_fits`: the key alone decides
  whether a request is sent.
* `Choices.FirstOffer`, `Choices.ofBody?_cons_iff`: the bodies that offer a completion.
* `CompletionService.Completes`: the responses that are completions.
* `CompletionService.read_of_completes`, `CompletionService.read_of_not_completes`: what is read.
* `HttpResponse.Delays`, `CompletionService.delays_iff`: the delay that a response asks for.
-/

namespace ActionTree

open Text

/-! ## Requests that are kept -/

/-- A text can stand in a header. -/
def Http.Fits (value : String) : Prop := ∀ c ∈ value.toList, isLegal c = true

namespace HttpHost

variable {σ : Type} (host : HttpHost σ)

/-- The host in a world that keeps the requests it gets, the oldest first. -/
def recorded : HttpHost (σ × List Post) where
  prepare := host.prepare
  answer p w := ((host.answer p w.1).1, (host.answer p w.1).2, w.2 ++ [p])
  interrupt p w := (host.interrupt p w.1).map (·, w.2 ++ [p])

/-- Nothing but the world tells that requests are kept. -/
theorem send_recorded (p : Post) (w : σ) (posts : List Post) :
    host.recorded.send p (w, posts) =
      ((host.send p w).1, (host.send p w).2, posts ++ (host.prepare p).toOption.toList) := by
  unfold send recorded
  cases host.prepare p with
  | error reason => simp only [Except.toOption, Option.toList_none, List.append_nil]
  | ok sent => rfl

theorem sendInterrupted_recorded (p : Post) (w : σ) (posts : List Post) :
    host.recorded.sendInterrupted p (w, posts) =
      (host.sendInterrupted p w).map (·, posts ++ (host.prepare p).toOption.toList) := by
  unfold sendInterrupted recorded
  cases host.prepare p <;> rfl

theorem checksHeaders_constant (answer : Except String HttpResponse) :
    (constant answer : HttpHost σ).ChecksHeaders where
  sends _ h := if_pos h
  refuses _ h := ⟨_, if_neg (by simp [h])⟩

end HttpHost

/-! ## Requests for completions -/

namespace CompletionService

/-- Who says what in a message of a body. -/
def said? (v : Json) : Option (Role × String) := do
  let role ← (v.get? "role").bind Json.string?
  let content ← (v.get? "content").bind Json.string?
  return (← Role.ofName? role, content)

theorem said?_messageJson (m : Message) : said? (messageJson m) = some m.said := by
  simp [said?, messageJson, Fields.get?, Message.said]

/-- A post asks a service for a completion: its address is the base without the slashes at the end,
with the path behind it, and its body gives back the conversation, the model and the limit, which is
there if and only if it is set. -/
structure Conveys (s : CompletionService) (r : CompletionRequest) (p : Post) : Prop where
  url : ∃ stem slashes : List Char, s.base.toList = stem ++ slashes ∧ (∀ c ∈ slashes, c = '/') ∧
    stem.getLast? ≠ some '/' ∧ p.url = String.ofList stem ++ "/chat/completions"
  messages : ∃ items, p.body.get? "messages" = some (.arr items) ∧
    items.mapM said? = some (r.messages.map Message.said)
  model : p.body.get? "model" = some (.str r.model)
  maxTokens : p.body.get? "max_tokens" = r.maxTokens.map .ofNat

theorem exists_eq_trimSlashes (cs : List Char) :
    ∃ slashes, cs = trimSlashes cs ++ slashes ∧ (∀ c ∈ slashes, c = '/') ∧
      (trimSlashes cs).getLast? ≠ some '/' := by
  refine ⟨(cs.reverse.takeWhile (· = '/')).reverse, ?_, fun c hc => ?_, fun hlast => ?_⟩
  · rw [trimSlashes, ← List.reverse_append, List.takeWhile_append_dropWhile, List.reverse_reverse]
  · simpa using List.mem_takeWhile_imp (List.mem_reverse.1 hc)
  · have hstop := List.head?_dropWhile_not (· = '/') cs.reverse
    rw [trimSlashes, List.getLast?_reverse] at hlast
    rw [hlast] at hstop
    simp at hstop

/-- The request for a completion says what it is to say. -/
theorem conveys_post (s : CompletionService) (r : CompletionRequest) :
    s.Conveys r (s.post r).onWire where
  url := by
    obtain ⟨slashes, hbase, hslashes, hstem⟩ := exists_eq_trimSlashes s.base.toList
    exact ⟨_, slashes, hbase, hslashes, hstem, rfl⟩
  messages := by
    refine ⟨r.messages.map messageJson, ?_, ?_⟩
    · cases h : r.maxTokens <;> simp [Post.onWire, post, body, h, Fields.get?]
    · have hread : said? ∘ messageJson = fun m => some m.said := funext said?_messageJson
      rw [List.mapM_map, hread]
      exact List.mapM_pure
  model := by cases h : r.maxTokens <;> simp [Post.onWire, post, body, h, Fields.get?]
  maxTokens := by cases h : r.maxTokens <;> simp [Post.onWire, post, body, h, Fields.get?]

theorem isLegal_post (s : CompletionService) (r : CompletionRequest) :
    (s.post r).isLegal = true ↔ Http.Fits s.key := by
  have hkey : ("Bearer " ++ s.key).toList.all Http.isLegal = s.key.toList.all Http.isLegal := by
    rw [String.toList_append, List.all_append]
    rfl
  have htype : "application/json".toList.all Http.isLegal = true := by decide
  simp only [post, Post.isLegal, List.all_cons, List.all_nil, htype, hkey, Bool.and_true]
  exact List.all_eq_true

section Sent

variable {σ : Type} (s : CompletionService) {host : HttpHost σ} (hhost : host.ChecksHeaders)
  (r : CompletionRequest) (w : σ) (posts : List Post)

include hhost

theorem send_of_fits (h : Http.Fits s.key) :
    host.recorded.send (s.post r) (w, posts) =
      ((host.answer (s.post r).onWire w).1, (host.answer (s.post r).onWire w).2,
        posts ++ [(s.post r).onWire]) := by
  have hsent := hhost.sends (s.post r) ((s.isLegal_post r).2 h)
  rw [host.send_recorded, HttpHost.send, hsent]
  rfl

/-- Nothing is sent under a key that cannot stand in a header. -/
theorem send_of_not_fits (h : ¬Http.Fits s.key) :
    ∃ reason, host.recorded.send (s.post r) (w, posts) = (.error reason, w, posts) := by
  have hillegal : (s.post r).isLegal = false := by
    rw [← Bool.not_eq_true, isLegal_post]
    exact h
  obtain ⟨reason, hreason⟩ := hhost.refuses (s.post r) hillegal
  refine ⟨reason, ?_⟩
  rw [host.send_recorded, HttpHost.send, hreason]
  exact congrArg (fun posts => (_, _, posts)) (List.append_nil posts)

end Sent

end CompletionService

/-! ## Bodies -/

theorem Document.string?_eq_some_iff {d : Document} {s : String} :
    d.string? = some s ↔ d = .value (.str s) := by
  constructor
  · intro h
    unfold string? at h
    split at h
    · cases h
      rfl
    · cases h
  · rintro rfl
    rfl

/-- An entry tells a text, or it is missing or null and tells none. -/
inductive Entry.Tells : Entry → Option String → Prop
  | absent : Tells .absent none
  | short : Tells .short none
  | null : Tells (.given (.value .null)) none
  | text (s : String) : Tells (.given (.value (.str s))) (some s)

namespace Entry

theorem optional_string_iff {x : Entry} {text : Option String} :
    x.optional Document.string? = some text ↔ x.Tells text := by
  constructor
  · intro h
    cases x with
    | absent =>
      cases h
      exact .absent
    | short =>
      cases h
      exact .short
    | given d =>
      simp only [optional, defaulting, nullable] at h
      split at h
      · rename_i hnull
        unfold Document.isNull at hnull
        split at hnull
        · cases h
          exact .null
        · cases hnull
      · obtain ⟨s, hs, rfl⟩ := Option.map_eq_some_iff.1 h
        rw [Document.string?_eq_some_iff.1 hs]
        exact .text s
  · rintro (_ | _ | _ | s) <;> rfl

theorem required_eq_some_iff {α : Type} {decode : Document → Option α} {x : Entry} {a : α} :
    x.required decode = some a ↔ ∃ d, x = .given d ∧ decode d = some a := by
  cases x <;> simp [required]

end Entry

namespace Choices

/-- A document offers a text: it is a record of a message, and that one of a role, whatever it
names, and of the text, which is empty if it is left out. -/
def Offers (d : Document) (text : String) : Prop :=
  ∃ message role content told, d.record? .json ["message"] = some [.given message] ∧
    message.record? .json ["role", "content"] = some [.given (.value (.str role)), content] ∧
    content.Tells told ∧ text = told.getD ""

/-- A body offers a text: it is JSON for a record of choices, of a model and of what was consumed,
each choice offers something, and the first one offers the text. -/
def FirstOffer (body text : String) : Prop :=
  ∃ d model choices usage first rest, Document.ofJsonText? body.toList = some d ∧
    d.record? .json ["model", "choices", "usage"] = some [model, .given choices, usage] ∧
    (∃ name, model.Tells name) ∧ (∃ used, usage.optionalInTable Usage.ofDocument? = some used) ∧
    choices.items? = some (first :: rest) ∧ Offers first text ∧
    ∀ choice ∈ rest, ∃ other, Offers choice other

theorem messageContent?_eq_some_iff {d : Document} {text : String} :
    messageContent? d = some text ↔
      ∃ role content told,
        d.record? .json ["role", "content"] = some [.given (.value (.str role)), content] ∧
        content.Tells told ∧ text = told.getD "" := by
  constructor
  · intro h
    simp only [messageContent?, bind, Option.bind_eq_some_iff] at h
    obtain ⟨entries, hrecord, h⟩ := h
    split at h
    · rename_i role content
      simp only [Option.bind_eq_some_iff, Entry.required_eq_some_iff,
        Document.string?_eq_some_iff, Entry.optional_string_iff] at h
      obtain ⟨name, ⟨_, rfl, rfl⟩, told, htold, h⟩ := h
      cases h
      exact ⟨name, content, told, hrecord, htold, rfl⟩
    · cases h
  · rintro ⟨role, content, told, hrecord, htold, rfl⟩
    exact read_then hrecord (read_then rfl (read_then (Entry.optional_string_iff.2 htold) rfl))

theorem choiceContent?_eq_some_iff {d : Document} {text : String} :
    choiceContent? d = some text ↔ Offers d text := by
  constructor
  · intro h
    simp only [choiceContent?, bind, Option.bind_eq_some_iff] at h
    obtain ⟨entries, hrecord, h⟩ := h
    split at h
    · obtain ⟨message, rfl, h⟩ := Entry.required_eq_some_iff.1 h
      obtain ⟨role, content, told, hmessage, htold, htext⟩ := messageContent?_eq_some_iff.1 h
      exact ⟨message, role, content, told, hrecord, hmessage, htold, htext⟩
    · cases h
  · rintro ⟨message, role, content, told, hrecord, hmessage, htold, htext⟩
    exact read_then hrecord
      (messageContent?_eq_some_iff.2 ⟨role, content, told, hmessage, htold, htext⟩)

theorem ofDocument?_eq_some_iff {d : Document} {c : Choices} :
    ofDocument? d = some c ↔ ∃ model choices usage items,
      d.record? .json ["model", "choices", "usage"] = some [model, .given choices, usage] ∧
        model.Tells c.model ∧ usage.optionalInTable Usage.ofDocument? = some c.usage ∧
        choices.items? = some items ∧ items.mapM choiceContent? = some c.contents := by
  constructor
  · intro h
    simp only [ofDocument?, bind, Option.bind_eq_some_iff] at h
    obtain ⟨entries, hrecord, h⟩ := h
    split at h
    · rename_i model choices usage
      simp only [Option.bind_eq_some_iff, Entry.optional_string_iff, Entry.required_eq_some_iff,
        Document.list?, bind] at h
      obtain ⟨name, hmodel, contents, ⟨given, rfl, items, hitems, hcontents⟩, used, husage, h⟩ := h
      cases h
      exact ⟨model, given, usage, items, hrecord, hmodel, husage, hitems, hcontents⟩
    · cases h
  · rintro ⟨model, choices, usage, items, hrecord, hmodel, husage, hitems, hcontents⟩
    exact read_then hrecord (read_then (Entry.optional_string_iff.2 hmodel)
      (read_then (read_then hitems hcontents) (read_then husage rfl)))

/-- Choices are read one by one. -/
theorem exists_mapM_iff {items : List Document} :
    (∃ contents, items.mapM choiceContent? = some contents) ↔
      ∀ choice ∈ items, ∃ text, Offers choice text := by
  induction items with
  | nil => simp
  | cons first rest ih =>
    rw [List.forall_mem_cons, ← ih]
    simp only [List.mapM_cons, bind, Option.bind_eq_some_iff, choiceContent?_eq_some_iff]
    constructor
    · rintro ⟨contents, text, hfirst, others, hothers, -⟩
      exact ⟨⟨text, hfirst⟩, others, hothers⟩
    · rintro ⟨⟨text, hfirst⟩, others, hothers⟩
      exact ⟨text :: others, text, hfirst, others, hothers, rfl⟩

theorem exists_mapM_cons_iff {items : List Document} {text : String} :
    (∃ contents, items.mapM choiceContent? = some (text :: contents)) ↔
      ∃ first rest, items = first :: rest ∧ Offers first text ∧
        ∀ choice ∈ rest, ∃ other, Offers choice other := by
  cases items with
  | nil => simp
  | cons first rest =>
    simp only [List.mapM_cons, bind, Option.bind_eq_some_iff, choiceContent?_eq_some_iff]
    constructor
    · rintro ⟨contents, other, hfirst, others, hothers, h⟩
      cases h
      exact ⟨first, rest, rfl, hfirst, exists_mapM_iff.1 ⟨_, hothers⟩⟩
    · rintro ⟨_, _, h, hfirst, hrest⟩
      cases h
      obtain ⟨others, hothers⟩ := exists_mapM_iff.2 hrest
      exact ⟨others, text, hfirst, others, hothers, rfl⟩

/-- The choices of a body are there, the first with a text, if the body offers that text. -/
theorem ofBody?_cons_iff {body text : String} :
    (∃ c rest, ofBody? body = some c ∧ c.contents = text :: rest) ↔ FirstOffer body text := by
  simp only [ofBody?, Option.bind_eq_some_iff, ofDocument?_eq_some_iff]
  constructor
  · rintro ⟨c, rest, ⟨d, hd, model, choices, usage, items, hrecord, hmodel, husage, hitems,
      hcontents⟩, hc⟩
    obtain ⟨first, others, rfl, hfirst, hothers⟩ :=
      exists_mapM_cons_iff.1 ⟨rest, hc ▸ hcontents⟩
    exact ⟨d, model, choices, usage, first, others, hd, hrecord, ⟨_, hmodel⟩, ⟨_, husage⟩, hitems,
      hfirst, hothers⟩
  · rintro ⟨d, model, choices, usage, first, others, hd, hrecord, ⟨name, hmodel⟩, ⟨used, husage⟩,
      hitems, hfirst, hothers⟩
    obtain ⟨rest, hcontents⟩ := exists_mapM_cons_iff.2 ⟨first, others, rfl, hfirst, hothers⟩
    exact ⟨⟨name, text :: rest, used⟩, rest, ⟨d, hd, model, choices, usage, _, hrecord, hmodel,
      husage, hitems, hcontents⟩, rfl⟩

end Choices

/-! ## Delays -/

/-- A response names a delay: the text of its header for it, trimmed, consists of decimal digits,
perhaps with a plus sign in front of them, of a number below `2^64`. -/
def HttpResponse.NamesDelay (r : HttpResponse) (n : Nat) : Prop :=
  ∃ value ds, r.header? "retry-after" = some value ∧ (trim value = ds ∨ trim value = '+' :: ds) ∧
    ds ≠ [] ∧ (∀ c ∈ ds, c.isDigit = true) ∧ number ds = n ∧ n < 2 ^ 64

/-- The delay that a response asks for: the one that it names, or 5 seconds. -/
def HttpResponse.Delays (r : HttpResponse) (n : Nat) : Prop :=
  r.NamesDelay n ∨ (∀ m, ¬r.NamesDelay m) ∧ n = 5

namespace CompletionService

theorem delay?_eq_some_iff {value : List Char} {n : Nat} :
    delay? value = some n ↔ ∃ ds, (trim value = ds ∨ trim value = '+' :: ds) ∧ ds ≠ [] ∧
      (∀ c ∈ ds, c.isDigit = true) ∧ number ds = n ∧ n < 2 ^ 64 := by
  constructor
  · intro h
    unfold delay? at h
    split at h
    · rename_i ds hplus
      obtain ⟨hne, hdigits, hn, hnumber⟩ := natural?_eq_some_iff.1 h
      exact ⟨ds, .inr hplus, hne, hdigits, hnumber, hn⟩
    · obtain ⟨hne, hdigits, hn, hnumber⟩ := natural?_eq_some_iff.1 h
      exact ⟨_, .inl rfl, hne, hdigits, hnumber, hn⟩
  · rintro ⟨ds, htrim, hne, hdigits, hnumber, hn⟩
    have hread : natural? delayBound ds = some n :=
      natural?_eq_some_iff.2 ⟨hne, hdigits, hn, hnumber⟩
    rcases htrim with htrim | htrim
    · unfold delay?
      split
      · rename_i rest hplus
        -- A plus sign is no digit.
        have := hdigits '+' (by rw [← htrim, hplus]; exact List.mem_cons_self)
        cases this
      · rwa [htrim]
    · rw [delay?, htrim]
      exact hread

/-- A response has the delay that it asks for, and asks for no other. -/
theorem delays_iff {r : HttpResponse} {n : Nat} : r.Delays n ↔ n = delay r := by
  have hnames : ∀ m, r.NamesDelay m ↔ (r.header? "retry-after").bind delay? = some m := by
    intro m
    simp only [Option.bind_eq_some_iff, delay?_eq_some_iff]
    constructor
    · rintro ⟨value, ds, hvalue, h⟩
      exact ⟨value, hvalue, ds, h⟩
    · rintro ⟨value, hvalue, ds, h⟩
      exact ⟨value, ds, hvalue, h⟩
  unfold HttpResponse.Delays delay
  simp only [hnames]
  cases (r.header? "retry-after").bind delay? with
  | some m => simp [eq_comm]
  | none => simp [defaultDelay]

/-! ## Responses -/

section Read

variable (model : String) (stamp : Stamp) {answer : Except String HttpResponse}

/-- What came of a request is a completion: a response of status 200 with a body that offers a
text. -/
def Completes (answer : Except String HttpResponse) (text : String) : Prop :=
  ∃ r, answer = .ok r ∧ r.status = 200 ∧ Choices.FirstOffer r.body text

/-- A response with another status is none, even with a body that offers a text. -/
theorem not_completes_of_status {r : HttpResponse} (hr : answer = .ok r) (h : r.status ≠ 200) :
    ∀ text, ¬Completes answer text := by
  rintro text ⟨r', hr', hstatus, -⟩
  rw [hr, Except.ok.injEq] at hr'
  exact h (hr' ▸ hstatus)

/-- A completion is read as a message of the assistant, whoever is said to speak. -/
theorem read_of_completes {text : String} (h : Completes answer text) :
    ∃ reply, read model stamp answer = .ok reply ∧
      reply.message = stamp.message .assistant text := by
  obtain ⟨r, rfl, hstatus, hoffer⟩ := h
  obtain ⟨c, rest, hc, hcontents⟩ := Choices.ofBody?_cons_iff.2 hoffer
  refine ⟨⟨stamp.message .assistant text, c.usage, c.model.getD model⟩, ?_, rfl⟩
  simp [read, readResponse, readBody, hstatus, hc, hcontents]

variable {model stamp} in
/-- A reply is read from a completion alone. -/
theorem completes_of_read {reply : Completion} (h : read model stamp answer = .ok reply) :
    ∃ text, Completes answer text := by
  cases answer with
  | error reason => cases h
  | ok r =>
    -- The statuses that are looked at in front of 200 are errors, and so is every one behind.
    simp only [read, readResponse] at h
    split at h
    · cases h
    split at h
    · cases h
    split at h
    · cases h
    rename_i hstatus
    unfold readBody at h
    split at h
    · cases h
    rename_i c hc
    split at h
    · cases h
    · rename_i text rest hcontents
      exact ⟨text, r, rfl, not_not.1 hstatus, Choices.ofBody?_cons_iff.1 ⟨c, rest, hc, hcontents⟩⟩

/-- Everything else is an error, which behind status 429 says the delay. -/
theorem read_of_not_completes (h : ∀ text, ¬Completes answer text) :
    ∃ err, read model stamp answer = .error err ∧
      ∀ r, answer = .ok r → r.status = 429 → err = .rateLimited (delay r) := by
  cases hread : read model stamp answer with
  | ok reply =>
    obtain ⟨text, htext⟩ := completes_of_read hread
    exact absurd htext (h text)
  | error err =>
    refine ⟨err, rfl, ?_⟩
    rintro r rfl hstatus
    have hlate : read model stamp (.ok r) = .error (.rateLimited (delay r)) := if_pos hstatus
    rw [hlate] at hread
    exact (Except.error.inj hread).symm

end Read

end CompletionService

end ActionTree
