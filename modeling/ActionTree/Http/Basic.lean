import ActionTree.Json.Basic
import ActionTree.Text.Blank

/-!
# HTTP exchanges

A `Post` is a request with headers and a JSON body. An `HttpHost σ`, which is given, makes of it
what is sent, if it can be sent at all, and answers that in a world with states `σ`, if a response
comes. Hosts check headers: a header value cannot contain control characters other than tabs, and it
is sent and received without the spaces and tabs at its ends.

In the program: what it uses of its HTTP library, which is given: sending a request with a JSON body
and reading status, headers and body of the response.

* `HttpResponse.header?`: the value of a header, of several the first.
* `HttpHost.send`: what comes of a request.
* `HttpHost.ChecksHeaders`: what hosts are known to do with headers.
* `HttpHost.constant`: a host that gives every request the same answer.
-/

namespace ActionTree

/-- A request that posts a JSON body. -/
structure Post where
  url : String
  headers : List (String × String)
  body : Json

/-- A response. -/
structure HttpResponse where
  status : Nat
  headers : List (String × String)
  body : String
  deriving DecidableEq

/-- What answers requests, in a world with states `σ`. -/
structure HttpHost (σ : Type) where
  /-- A request as it is sent, or why it cannot be. -/
  prepare : Post → Except String Post
  /-- The response to a request that is sent, or why none came. -/
  answer : Post → σ → Except String HttpResponse × σ
  /-- The world in which the line is cancelled before a response came, if that happens. -/
  interrupt : Post → σ → Option σ

namespace Http

/-- The characters at the ends of a header value that are not part of it. -/
def isPadding (c : Char) : Bool := c = ' ' || c = '\t'

/-- A header value without the spaces and tabs at its ends. -/
def strip (cs : List Char) : List Char :=
  ((cs.dropWhile isPadding).reverse.dropWhile isPadding).reverse

/-- A header value without the spaces and tabs at its ends. -/
def stripped (value : String) : String := String.ofList (strip value.toList)

/-- Can a header value contain the character? -/
def isLegal (c : Char) : Bool := c = '\t' || (32 ≤ c.toNat && c.toNat ≠ 127)

/-- Can a received header value contain the character and still count as text? -/
def isPlain (c : Char) : Bool := c = '\t' || (32 ≤ c.toNat && c.toNat ≤ 126)

/-- Are two header names equal up to the case of ASCII letters? -/
def sameName (a b : String) : Bool := Text.lower a.toList == Text.lower b.toList

end Http

/-- The text of a header. The first of several counts, and it must be plain. -/
def HttpResponse.header? (r : HttpResponse) (name : String) : Option (List Char) :=
  match r.headers.find? fun h => Http.sameName h.1 name with
  | some h =>
    let value := Http.strip h.2.toList
    if value.all Http.isPlain then some value else none
  | none => none

namespace Post

/-- Can all header values be sent? -/
def isLegal (p : Post) : Bool := p.headers.all fun h => h.2.toList.all Http.isLegal

/-- The request with its header values as they are sent. -/
def onWire (p : Post) : Post :=
  { p with headers := p.headers.map fun h => (h.1, Http.stripped h.2) }

end Post

namespace HttpHost

variable {σ : Type}

/-- The response to a request, if it can be sent, or why there is none. -/
def send (host : HttpHost σ) (p : Post) (w : σ) : Except String HttpResponse × σ :=
  match host.prepare p with
  | .ok sent => host.answer sent w
  | .error reason => (.error reason, w)

/-- The world in which the line is cancelled while a request waits for its response. -/
def sendInterrupted (host : HttpHost σ) (p : Post) (w : σ) : Option σ :=
  match host.prepare p with
  | .ok sent => host.interrupt sent w
  | .error _ => none

/-- A host checks headers: it sends a request with legal header values, and no other. -/
structure ChecksHeaders (host : HttpHost σ) : Prop where
  sends : ∀ p : Post, p.isLegal = true → host.prepare p = .ok p.onWire
  refuses : ∀ p : Post, p.isLegal = false → ∃ reason, host.prepare p = .error reason

/-- A host that checks headers and gives every request the same answer. -/
def constant (answer : Except String HttpResponse) : HttpHost σ where
  prepare p := if p.isLegal then .ok p.onWire else .error "illegal header value"
  answer _ w := (answer, w)
  interrupt _ _ := none

end HttpHost

end ActionTree
