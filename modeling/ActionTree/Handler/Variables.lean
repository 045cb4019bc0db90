import ActionTree.Handler.Arguments
import ActionTree.Handler.Basic
import ActionTree.Session.Codec

/-!
# Variables and introspection

Seven handlers work on the session alone. Four of them read and write the named variables, three
report on the session.

In the program: `MetaOp` (`SessionOp`) and `MetaHandler`, whose `invoke` is `SessionOp.edit`.

* `SessionOp.edit`: what each of them does to the workspace and answers.
* `appended?`: a value behind an array or a string.
-/

namespace ActionTree

/-- An operation on the variables or the log of a session. -/
inductive SessionOp where
  | saveVar
  | getVar
  | appendToVar
  | deleteVar
  | listVars
  | sessionStats
  | exportSession
  deriving DecidableEq

namespace SessionOp

open Arguments

/-- All operations. -/
def all : List SessionOp :=
  [saveVar, getVar, appendToVar, deleteVar, listVars, sessionStats, exportSession]

/-- The id of the handler of an operation. -/
def id : SessionOp → String
  | saveVar => "save_var"
  | getVar => "get_var"
  | appendToVar => "append_to_var"
  | deleteVar => "delete_var"
  | listVars => "list_vars"
  | sessionStats => "session_stats"
  | exportSession => "export_session"

/-- What the handler of an operation does. -/
def description : SessionOp → String
  | saveVar => "Store a value under a name"
  | getVar => "Read a stored value"
  | appendToVar => "Push onto a list variable or extend a string variable"
  | deleteVar => "Remove a stored value"
  | listVars => "All stored values"
  | sessionStats => "Counts of results, variables and agents"
  | exportSession => "The whole session as one JSON document"

/-- The error that no variable has a name. -/
def notFound (op : SessionOp) (name : String) : ExecutionError :=
  .failed op.id ("variable '" ++ name ++ "' not found")

/-- The name argument. -/
def nameArg (args : Json) : Except ExecutionError String := requiredString args ["name"]

/-- The value argument; without one it is null. -/
def valueArg (args : Json) : Json := (args.get? "value").getD .null

/-- A value behind the items of an array, or its text behind a string. Nothing can be appended to
other values. -/
def appended? (v : Json) : Json → Option Json
  | .arr items => some (.arr (items ++ [v]))
  | .str s => some (.str (s ++ v.inText))
  | _ => none

/-- The value of a variable. -/
def stored (op : SessionOp) (name : String) : Workspace.Edit Json := do
  match (← get).values.get? name with
  | some v => return v
  | none => throw (op.notFound name)

/-- The workspace with a variable set. -/
def set (work : Workspace) (name : String) (v : Json) : Workspace :=
  { work with values := work.values.put name v }

/-- The number of failed records of a log. -/
def failures (log : List Record) : Nat := log.countP (!·.success)

/-- What an operation does to the workspace and what it answers. -/
def edit : SessionOp → Json → Call → Workspace.Edit Json
  | saveVar, args, _ => do
    let name ← nameArg args
    let v := valueArg args
    modify (set · name v)
    return .obj [("saved", .bool true), ("value", v), ("variable", .str name)]
  | getVar, args, _ => do
    let name ← nameArg args
    stored getVar name
  | appendToVar, args, _ => do
    let name ← nameArg args
    let old ← stored appendToVar name
    match appended? (valueArg args) old with
    | some new =>
      modify (set · name new)
      return .obj [("appended", .bool true), ("new_value", new), ("variable", .str name)]
    | none =>
      throw (.failed appendToVar.id ("cannot append to a " ++ old.kindName ++ " variable"))
  | deleteVar, args, _ => do
    let name ← nameArg args
    let _ ← stored deleteVar name
    modify fun work => { work with values := work.values.erase name }
    return .obj [("deleted", .bool true), ("variable", .str name)]
  | listVars, _, _ => do
    let values := (← get).values
    return .obj [("count", .ofNat values.length), ("variables", .obj values)]
  | sessionStats, _, c => do
    let work ← get
    return .obj [("agents", .ofNat work.agents.length),
      ("failed_results", .ofNat (failures c.log)), ("results", .ofNat c.log.length),
      ("session_id", .str c.sessionId), ("variables", .ofNat work.values.length)]
  | exportSession, _, c => do
    let work ← get
    return .obj [("agents", work.agents.toJson), ("exported_at", c.moment.time.toJson),
      ("results", State.logJson c.log), ("session_id", .str c.sessionId),
      ("variables", .obj work.values)]

/-- The handler of an operation. -/
def handler {σ : Type} (op : SessionOp) : Handler σ := .ofEdit op.id op.description op.edit

end SessionOp

end ActionTree
