import ActionTree.Agent.Codec
import ActionTree.Session.Basic

/-!
# Records and session states as JSON

Members are listed by key; the error of a successful step is left out.

In the program: the serialized forms of `StepErrorKind`, `StepResult`, `SessionState` and
`Navigator`.
-/

namespace ActionTree

namespace FailureKind

/-- A kind as JSON: its name. -/
def toJson (k : FailureKind) : Json := .str k.name

/-- The kind that a JSON document gives. -/
def ofDocument? (d : Document) : Option FailureKind := (d.choice? .json).bind ofName?

end FailureKind

namespace Record

/-- Indices are below this bound. -/
def indexBound : Nat := UInt64.size

/-- A record as JSON. -/
def toJson (r : Record) : Json :=
  .obj ([("address", r.address.toJson), ("args", r.args)]
    ++ Json.optionalMember "error" (r.error.map .str)
    ++ Json.optionalMember "error_kind" (r.kind.map (·.toJson))
    ++ [("index", .ofNat r.index), ("output", r.output), ("recorded_at", r.recordedAt.toJson),
      ("success", .bool r.success)])

/-- The record that a JSON document gives. -/
def ofDocument? (d : Document) : Option Record := do
  match ← d.record? .json ["index", "address", "success", "output", "error", "error_kind", "args",
      "recorded_at"] with
  | [index, address, success, output, error, kind, args, recordedAt] =>
    return ⟨← index.required (Document.natural? indexBound),
      ← address.required Address.ofDocument?, ← success.required Document.bool?,
      ← output.required Document.json?, ← error.optional Document.string?,
      ← kind.optional FailureKind.ofDocument?, ← args.defaulting Document.json? .null,
      ← recordedAt.required Instant.ofDocument?⟩
  | _ => none

end Record

namespace State

/-- The log of a state as JSON. -/
def logJson (log : List Record) : Json := .arr (log.map (·.toJson))

/-- A state as JSON. -/
def toJson (s : State) : Json :=
  .obj [("agents", s.work.agents.toJson), ("context", .obj s.work.values),
    ("results", logJson s.log)]

/-- The members of an object as a table. -/
def objectOf? (d : Document) : Option (Fields Json) := d.tableOf? Document.json?

/-- The state that a JSON document gives. -/
def ofDocument? (d : Document) : Option State := do
  match ← d.record? .json ["results", "context", "agents"] with
  | [log, values, agents] =>
    return ⟨← log.required (Document.list? Record.ofDocument?),
      ⟨← values.required objectOf?, ← agents.required Agents.ofDocument?⟩⟩
  | _ => none

end State

namespace Navigator

/-- A path as JSON. -/
def toJson (n : Navigator) : Json := .obj [("stack", .arr (n.stack.map (·.toJson)))]

end Navigator

end ActionTree
