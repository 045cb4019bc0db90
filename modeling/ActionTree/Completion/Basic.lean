import ActionTree.Agent.Message
import ActionTree.Binary.Basic
import ActionTree.Failure

/-!
# Completions

A completion request asks a provider for the next message of a conversation. A `Provider σ` answers
requests in a world with states `σ`; it may also be found waiting when the line is cancelled.

In the program: `CompletionRequest`, `CompletionResponse` (`Completion`), `Usage` and `Provider`. A
`Moment` has the time and the ids that the program takes from the clock and from chance, and
`interrupt` is what is left of a call of `complete` that is dropped.
-/

namespace ActionTree

/-- A request for the next message of a conversation. -/
structure CompletionRequest where
  model : String
  messages : List Message
  temperature : Binary32
  maxTokens : Option Nat
  deriving DecidableEq

/-- What a completion consumed. -/
structure Usage where
  promptTokens : Nat
  completionTokens : Nat
  totalTokens : Nat
  deriving DecidableEq

/-- A provider's answer. -/
structure Completion where
  message : Message
  usage : Option Usage
  /-- The model that answered. -/
  model : String
  deriving DecidableEq

/-- The temperature of requests that name none: 0.7. -/
def defaultTemperature : Binary32 := (Binary.nearestTen false 7 (-1)).narrow

/-- What the moment of a line supplies: the time and fresh ids. -/
structure Moment where
  time : Instant
  /-- The `n`-th fresh id. -/
  id : Nat → String

/-- The id and the time of the `n`-th new message. -/
def Moment.stamp (m : Moment) (n : Nat) : Stamp := ⟨m.id n, m.time⟩

/-- A source of completions in a world with states `σ`. -/
structure Provider (σ : Type) where
  name : String
  /-- The answer to a request; a new message takes the stamp. -/
  complete : CompletionRequest → Stamp → σ → Except ProviderError Completion × σ
  /-- The world in which the line is cancelled while the provider has not answered yet, if that
  happens. -/
  interrupt : CompletionRequest → σ → Option σ

end ActionTree
