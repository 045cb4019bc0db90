import ActionTree.Address.Basic
import ActionTree.Failure
import ActionTree.Instant.Basic
import ActionTree.Json.Basic

/-!
# Step records

Every step that runs leaves one `Record` in the log of its session: the address it ran at, the
arguments it ran with and its output, or the message and kind of its failure.

In the program: `StepResult` (`Record`), with `success` (`ofOutput`) and `failure` (`ofFailure`).

* `Record.ofOutput`, `Record.ofFailure`: the two forms of a record.
-/

namespace ActionTree

/-- What one step did. -/
structure Record where
  /-- The place in the log; the first record has index 1. -/
  index : Nat
  address : Address
  success : Bool
  /-- The output of a successful step, null after a failure. -/
  output : Json
  /-- What the failure says. -/
  error : Option String
  kind : Option FailureKind
  /-- The arguments with references replaced, or the raw ones if the step did not get that far. -/
  args : Json
  recordedAt : Instant
  deriving DecidableEq

namespace Record

/-- The record of a step that succeeded. -/
def ofOutput (index : Nat) (address : Address) (args output : Json) (now : Instant) : Record :=
  ⟨index, address, true, output, none, none, args, now⟩

/-- The record of a step that failed. -/
def ofFailure (index : Nat) (address : Address) (args : Json) (f : Failure) (now : Instant) :
    Record :=
  ⟨index, address, false, .null, some f.message, some f.kind, args, now⟩

end Record

end ActionTree
