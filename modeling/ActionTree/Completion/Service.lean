import ActionTree.Completion.Codec
import ActionTree.Document.Decode
import ActionTree.Http.Basic
import ActionTree.Json.Reader
import ActionTree.Text.Decimal

/-!
# Completion services

A `CompletionService` is reached over HTTP: it takes a conversation as a JSON body under
`/chat/completions` and answers with choices, of which the first counts. The key is sent in the
`Authorization` header and nowhere else.

In the program: `OpenAiCompatProvider` (`CompletionService`), whose `complete` is `post`, the
exchange and `read`, one after the other; `ApiMessage`, `ApiResponse` and `ApiChoice` are what
`messageJson` writes and `Choices` reads.

* `CompletionService.post`: the request for a completion.
* `CompletionService.read`: the completion in a response, or what went wrong.
* `CompletionService.provider`: the service as a provider.
-/

namespace ActionTree

/-- A completion service. -/
structure CompletionService where
  name : String
  /-- The address of the service; slashes at its end do not count. -/
  base : String
  key : String
  deriving DecidableEq

/-- A response that offers completions. -/
structure Choices where
  /-- The model that answered, if the response says. -/
  model : Option String
  /-- The content of each choice; a choice without content has the empty one. -/
  contents : List String
  usage : Option Usage
  deriving DecidableEq

namespace Choices

/-- The content of a message; its role must be there but does not count. -/
def messageContent? (d : Document) : Option String := do
  match ← d.record? .json ["role", "content"] with
  | [role, content] =>
    let _ ← role.required Document.string?
    return (← content.optional Document.string?).getD ""
  | _ => none

/-- The content of a choice. -/
def choiceContent? (d : Document) : Option String := do
  match ← d.record? .json ["message"] with
  | [message] => message.required messageContent?
  | _ => none

/-- The choices that a JSON document gives. -/
def ofDocument? (d : Document) : Option Choices := do
  match ← d.record? .json ["model", "choices", "usage"] with
  | [model, choices, usage] =>
    return ⟨← model.optional Document.string?,
      ← choices.required (Document.list? choiceContent?),
      ← usage.optionalInTable Usage.ofDocument?⟩
  | _ => none

/-- The choices in a body. -/
def ofBody? (body : String) : Option Choices :=
  (Document.ofJsonText? body.toList).bind ofDocument?

end Choices

namespace CompletionService

/-- The text without the slashes at its end. -/
def trimSlashes (cs : List Char) : List Char := (cs.reverse.dropWhile (· = '/')).reverse

/-- Where completions are asked for. -/
def url (s : CompletionService) : String :=
  String.ofList (trimSlashes s.base.toList) ++ "/chat/completions"

/-- A message in a body. -/
def messageJson (m : Message) : Json :=
  .obj [("content", .str m.content), ("role", .str m.role.name)]

/-- The body of a request. -/
def body (r : CompletionRequest) : Json :=
  .obj (Json.optionalMember "max_tokens" (r.maxTokens.map .ofNat)
    ++ [("messages", .arr (r.messages.map messageJson)), ("model", .str r.model),
      ("stream", .bool false), ("temperature", .single r.temperature)])

/-- The request for a completion. -/
def post (s : CompletionService) (r : CompletionRequest) : Post where
  url := s.url
  headers := [("Authorization", "Bearer " ++ s.key), ("Content-Type", "application/json")]
  body := body r

/-- How long to wait if a response does not say, in seconds. -/
def defaultDelay : Nat := 5

/-- Delays are below this bound. -/
def delayBound : Nat := UInt64.size

/-- The delay that a header value gives: a decimal, with blanks around it and a plus sign before. -/
def delay? (value : List Char) : Option Nat :=
  match Text.trim value with
  | '+' :: ds => Text.natural? delayBound ds
  | ds => Text.natural? delayBound ds

/-- The delay that a response asks for. -/
def delay (r : HttpResponse) : Nat := ((r.header? "retry-after").bind delay?).getD defaultDelay

/-- The completion in the body of a successful response. -/
def readBody (model : String) (stamp : Stamp) (body : String) : Except ProviderError Completion :=
  match Choices.ofBody? body with
  | none => .error (.api 200 "Failed to parse response: error decoding response body")
  | some c =>
    match c.contents with
    | [] => .error (.api 200 "No choices in response")
    | content :: _ => .ok ⟨stamp.message .assistant content, c.usage, c.model.getD model⟩

/-- The completion in a response. Only status 200 is a success. -/
def readResponse (model : String) (stamp : Stamp) (r : HttpResponse) :
    Except ProviderError Completion :=
  if r.status = 429 then .error (.rateLimited (delay r))
  else if r.status = 401 ∨ r.status = 403 then
    .error (.authentication "Invalid API key or insufficient permissions")
  else if r.status ≠ 200 then .error (.api r.status r.body)
  else readBody model stamp r.body

/-- The completion in what came of a request. -/
def read (model : String) (stamp : Stamp) :
    Except String HttpResponse → Except ProviderError Completion
  | .ok r => readResponse model stamp r
  | .error reason => .error (.network reason)

/-- The service as a provider. -/
def provider {σ : Type} (s : CompletionService) (host : HttpHost σ) : Provider σ where
  name := s.name
  complete r stamp w :=
    let (answer, w) := host.send (s.post r) w
    (read r.model stamp answer, w)
  interrupt r w := host.sendInterrupted (s.post r) w

end CompletionService

end ActionTree
