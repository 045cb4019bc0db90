/-!
# Failures

A step of a line fails for one of these reasons; `message` is what its record says, `kind` how it is
classified.

In the program: `SubstitutionError` (`ReferenceError`), `ToolError`, `ProviderError`,
`ExecutionError`, `StepErrorKind` (`FailureKind`) and `StepError` (`Failure`), each with its text as
`message`.

* `ReferenceError`: an argument refers to an output that is not there.
* `ToolError`, `ProviderError`: what tools and completion providers report.
* `ExecutionError`: what a handler reports.
* `Failure`: why a step failed.
-/

namespace ActionTree

/-- A reference to an output that cannot be used. -/
inductive ReferenceError where
  /-- No step with this number is among the recorded ones. -/
  | unknownStep (index recorded : Nat)
  /-- The step with this number failed. -/
  | failedStep (index : Nat)
  deriving DecidableEq

/-- What a reference error says. -/
def ReferenceError.message : ReferenceError → String
  | .unknownStep index recorded =>
    "step " ++ toString index ++ " does not exist (" ++ toString recorded ++ " results recorded)"
  | .failedStep index => "step " ++ toString index ++ " failed; its output cannot be substituted"

/-- What a tool reports instead of a result. -/
inductive ToolError where
  | notFound (name : String)
  | failed (tool reason : String)
  | timeout (tool : String) (seconds : Nat)
  | denied (tool reason : String)
  | invalidArguments (reason : String)
  deriving DecidableEq

/-- What a tool error says. -/
def ToolError.message : ToolError → String
  | .notFound name => "Tool not found: " ++ name
  | .failed tool reason => "Tool execution failed: " ++ tool ++ ": " ++ reason
  | .timeout tool seconds => "Tool timed out: " ++ tool ++ " after " ++ toString seconds ++ "s"
  | .denied tool reason => "Permission denied: " ++ tool ++ ": " ++ reason
  | .invalidArguments reason => "Invalid tool arguments: " ++ reason

/-- What a completion provider reports instead of a reply. -/
inductive ProviderError where
  | api (status : Nat) (body : String)
  | rateLimited (retryAfter : Nat)
  | authentication (reason : String)
  | notConfigured (reason : String)
  | network (reason : String)
  deriving DecidableEq

/-- What a provider error says. -/
def ProviderError.message : ProviderError → String
  | .api status body => "API request failed: " ++ body ++ " (status: " ++ toString status ++ ")"
  | .rateLimited retryAfter =>
    "Rate limited by provider, retry after " ++ toString retryAfter ++ "s"
  | .authentication reason => "Authentication failed: " ++ reason
  | .notConfigured reason => "Provider not configured: " ++ reason
  | .network reason => "Network error: " ++ reason

/-- What a handler reports instead of an output. -/
inductive ExecutionError where
  | unknownHandler (id : String)
  | invalidArguments (reason : String)
  | failed (handler reason : String)
  | tool (e : ToolError)
  | provider (e : ProviderError)
  deriving DecidableEq

/-- What an execution error says. -/
def ExecutionError.message : ExecutionError → String
  | .unknownHandler id => "no handler registered for '" ++ id ++ "'"
  | .invalidArguments reason => "invalid arguments: " ++ reason
  | .failed handler reason => handler ++ " failed: " ++ reason
  | .tool e => e.message
  | .provider e => e.message

/-- The kind of a failed step. -/
inductive FailureKind where
  | addressNotFound
  | unknownStep
  | failedStep
  | execution
  | cancelled
  deriving DecidableEq

namespace FailureKind

/-- The name of a kind. -/
def name : FailureKind → String
  | addressNotFound => "address_not_found"
  | unknownStep => "unknown_step"
  | failedStep => "failed_step"
  | execution => "execution"
  | cancelled => "cancelled"

/-- The kind of a name. -/
def ofName? : String → Option FailureKind
  | "address_not_found" => some addressNotFound
  | "unknown_step" => some unknownStep
  | "failed_step" => some failedStep
  | "execution" => some execution
  | "cancelled" => some cancelled
  | _ => none

@[simp] theorem ofName?_name (k : FailureKind) : ofName? k.name = some k := by cases k <;> rfl

end FailureKind

/-- Why a step failed. -/
inductive Failure where
  | addressNotFound (address : String)
  | reference (e : ReferenceError)
  | execution (e : ExecutionError)
  | cancelled
  deriving DecidableEq

namespace Failure

/-- What a failure says. -/
def message : Failure → String
  | addressNotFound address => "address not found: " ++ address
  | reference e => "substitution failed: " ++ e.message
  | execution e => "execution failed: " ++ e.message
  | cancelled => "cancelled before completion"

/-- The kind of a failure. -/
def kind : Failure → FailureKind
  | addressNotFound _ => .addressNotFound
  | reference (.unknownStep ..) => .unknownStep
  | reference (.failedStep _) => .failedStep
  | execution _ => .execution
  | cancelled => .cancelled

end Failure

end ActionTree
