import ActionTree.Session.Codec
import ActionTree.Proofs.Instant.Text

/-!
# Values of a session that are read back

What is written of a session as JSON is read back as it was: messages and agents, records, states,
nodes and menus. Members that are left out stand for the values that their readers fall back on.
Times have to name moments, and the index of a record has to fit.

* `Message.Valid`, `Agent.Valid`, `Record.Valid`, `State.Valid`: times and indices are in range.
* `Node.ofDocument?_toJson`, `Menu.ofDocument?_toJson`, `Agent.ofDocument?_toJson`,
  `Record.ofDocument?_toJson`, `State.ofDocument?_toJson`: reading what was written.
-/

namespace ActionTree

open Document Entry

/-! ## Texts -/

theorem Address.ofDocument?_toJson (a : Address) : ofDocument? (.value a.toJson) = some a :=
  parse?_text a

theorem Instant.ofDocument?_toJson {t : Instant} (h : t.isValid = true) :
    ofDocument? (.value t.toJson) = some t := by
  rw [toJson, ofDocument?, Document.string?, Option.bind_some, parse?_text h]

theorem Role.ofDocument?_toJson (r : Role) : ofDocument? (.value r.toJson) = some r :=
  ofName?_name r

theorem FailureKind.ofDocument?_toJson (k : FailureKind) : ofDocument? (.value k.toJson) = some k :=
  ofName?_name k

theorem ArgType.ofDocument?_toJson (t : ArgType) : ofDocument? .json (.value t.toJson) = some t :=
  ofName?_name t

/-- A text that is left out if there is none. -/
theorem optional_string (x : Option String) :
    (ofOption (x.map .str)).optional Document.string? = some x :=
  @optional_ofOption _ Document.string? Json.str (fun _ => nofun) (fun _ => rfl) x

/-! ## Nodes and menus -/

namespace ArgType

/-- A table of argument types as a member: an empty one is left out. -/
def table? (args : Fields ArgType) : Option Json :=
  if args.isEmpty then none else some (.obj (args.map fun a => (a.1, a.2.toJson)))

theorem member_eq (key : String) (args : Fields ArgType) :
    member key args = Json.optionalMember key (table? args) := by
  unfold member table?
  split <;> rfl

theorem defaulting_table (args : Fields ArgType) :
    (ofOption (table? args)).defaulting (Document.tableOf? (ofDocument? .json)) [] = some args := by
  rw [table?]
  split
  · rename_i hempty
    rw [List.isEmpty_iff.1 hempty]
    rfl
  · exact tableOf?_map fun a _ => ofDocument?_toJson a.2

end ArgType

namespace Node

theorem record?_toJson (n : Node) :
    (Document.value n.toJson).record? .json
        ["address", "label", "description", "handler_id", "arg_schema"] =
      some [ofOption (some n.address.toJson), ofOption (some (.str n.label)),
        ofOption (n.description.map .str), ofOption (n.handler.map .str),
        ofOption (ArgType.table? n.args)] := by
  have hjson : n.toJson = .obj (Json.written [("address", some n.address.toJson),
      ("arg_schema", ArgType.table? n.args), ("description", n.description.map .str),
      ("handler_id", n.handler.map .str), ("label", some (.str n.label))]) := by
    simp [toJson, ArgType.member_eq]
  rw [hjson, record?_written (by simp [Fields.keys])]
  simp [Fields.get?]

theorem ofDocument?_toJson (n : Node) : ofDocument? (.value n.toJson) = some n :=
  read_then n.record?_toJson <| read_then (required_ofOption (Address.ofDocument?_toJson _)) <|
    read_then rfl <| read_then (optional_string _) <| read_then (optional_string _) <|
    read_then (ArgType.defaulting_table _) rfl

end Node

namespace MenuOption

theorem record?_toJson (o : MenuOption) :
    (Document.value o.toJson).record? .json ["option", "address", "label", "handler_id"] =
      some [ofOption (some (.ofNat o.number.toNat)), ofOption (some o.address.toJson),
        ofOption (some (.str o.label)), ofOption (o.handler.map .str)] := by
  have hjson : o.toJson = .obj (Json.written [("address", some o.address.toJson),
      ("handler_id", o.handler.map .str), ("label", some (.str o.label)),
      ("option", some (.ofNat o.number.toNat))]) := by
    simp [toJson]
  rw [hjson, record?_written (by simp [Fields.keys])]
  simp [Fields.get?]

theorem ofDocument?_toJson (o : MenuOption) : ofDocument? (.value o.toJson) = some o := by
  have hnumber : (Document.value (.ofNat o.number.toNat)).natural? UInt32.size =
      some o.number.toNat := if_pos o.number.toNat_lt_size
  refine read_then o.record?_toJson <| read_then (required_ofOption hnumber) <|
    read_then (required_ofOption (Address.ofDocument?_toJson _)) <|
    read_then rfl <| read_then (optional_string _) ?_
  rw [UInt32.ofNat_toNat]
  rfl

end MenuOption

namespace Menu

theorem record?_toJson (m : Menu) :
    (Document.value m.toJson).record? .json
        ["address", "label", "description", "args", "options"] =
      some [ofOption (some m.address.toJson), ofOption (some (.str m.label)),
        ofOption (m.description.map .str), ofOption (ArgType.table? m.args),
        ofOption (some (.arr (m.options.map (·.toJson))))] := by
  have hjson : m.toJson = .obj (Json.written [("address", some m.address.toJson),
      ("args", ArgType.table? m.args), ("description", m.description.map .str),
      ("label", some (.str m.label)), ("options", some (.arr (m.options.map (·.toJson))))]) := by
    simp [toJson, ArgType.member_eq]
  rw [hjson, record?_written (by simp [Fields.keys])]
  simp [Fields.get?]

theorem ofDocument?_toJson (m : Menu) : ofDocument? (.value m.toJson) = some m :=
  read_then m.record?_toJson <| read_then (required_ofOption (Address.ofDocument?_toJson _)) <|
    read_then rfl <| read_then (optional_string _) <| read_then (ArgType.defaulting_table _) <|
    read_then (required_ofOption (list?_map fun o _ => o.ofDocument?_toJson)) rfl

end Menu

/-! ## Messages and agents -/

namespace Message

/-- The time of a message names a moment. -/
def Valid (m : Message) : Prop := m.sentAt.isValid = true

theorem record?_toJson (m : Message) :
    (Document.value m.toJson).record? .json ["id", "role", "content", "timestamp"] =
      some [ofOption (some (.str m.id)), ofOption (some m.role.toJson),
        ofOption (some (.str m.content)), ofOption (some m.sentAt.toJson)] := by
  have hjson : m.toJson = .obj (Json.written [("content", some (.str m.content)),
      ("id", some (.str m.id)), ("role", some m.role.toJson),
      ("timestamp", some m.sentAt.toJson)]) := by
    simp [toJson]
  rw [hjson, record?_written (by simp [Fields.keys])]
  simp [Fields.get?]

theorem ofDocument?_toJson {m : Message} (h : m.Valid) : ofDocument? (.value m.toJson) = some m :=
  read_then m.record?_toJson <| read_then rfl <|
    read_then (required_ofOption (Role.ofDocument?_toJson _)) <| read_then rfl <|
    read_then (required_ofOption (Instant.ofDocument?_toJson h)) rfl

end Message

namespace Agent

/-- All times of an agent name moments. -/
structure Valid (a : Agent) : Prop where
  createdAt : a.createdAt.isValid = true
  lastUsed : a.lastUsed.isValid = true
  history : ∀ m ∈ a.history, m.Valid

theorem record?_toJson (a : Agent) :
    (Document.value a.toJson).record? .json
        ["name", "model", "system_prompt", "history", "created_at", "last_used"] =
      some [ofOption (some (.str a.name)), ofOption (some (.str a.model)),
        ofOption (a.systemPrompt.map .str), ofOption (some (.arr (a.history.map (·.toJson)))),
        ofOption (some a.createdAt.toJson), ofOption (some a.lastUsed.toJson)] := by
  have hjson : a.toJson = .obj (Json.written [("created_at", some a.createdAt.toJson),
      ("history", some (.arr (a.history.map (·.toJson)))), ("last_used", some a.lastUsed.toJson),
      ("model", some (.str a.model)), ("name", some (.str a.name)),
      ("system_prompt", a.systemPrompt.map .str)]) := by
    simp [toJson]
  rw [hjson, record?_written (by simp [Fields.keys])]
  simp [Fields.get?]

theorem ofDocument?_toJson {a : Agent} (h : a.Valid) : ofDocument? (.value a.toJson) = some a := by
  have hhistory : (ofOption (some (.arr (a.history.map (·.toJson))))).defaulting
      (Document.list? Message.ofDocument?) [] = some a.history :=
    list?_map fun m hm => Message.ofDocument?_toJson (h.history m hm)
  exact read_then a.record?_toJson <| read_then rfl <| read_then rfl <|
    read_then (optional_string _) <| read_then hhistory <|
    read_then (required_ofOption (Instant.ofDocument?_toJson h.createdAt)) <|
    read_then (required_ofOption (Instant.ofDocument?_toJson h.lastUsed)) rfl

end Agent

namespace Agents

/-- All times of the agents name moments. -/
def Valid (agents : Agents) : Prop := ∀ a ∈ agents, a.2.Valid

theorem ofDocument?_toJson {agents : Agents} (h : agents.Valid) :
    ofDocument? (.value agents.toJson) = some agents := by
  have hrecord : (Document.value agents.toJson).record? .json ["agents"] =
      some [ofOption (some (.obj (agents.map fun a => (a.1, a.2.toJson))))] := by
    rw [toJson, record?_obj (by simp [Fields.keys])]
    simp [Fields.get?]
  exact read_then hrecord (tableOf?_map fun a ha => Agent.ofDocument?_toJson (h a ha))

end Agents

/-! ## Records and states -/

namespace Record

/-- The index of a record fits, and its time names a moment. -/
structure Valid (r : Record) : Prop where
  index : r.index < indexBound
  recordedAt : r.recordedAt.isValid = true

theorem record?_toJson (r : Record) :
    (Document.value r.toJson).record? .json
        ["index", "address", "success", "output", "error", "error_kind", "args", "recorded_at"] =
      some [ofOption (some (.ofNat r.index)), ofOption (some r.address.toJson),
        ofOption (some (.bool r.success)), ofOption (some r.output), ofOption (r.error.map .str),
        ofOption (r.kind.map (·.toJson)), ofOption (some r.args),
        ofOption (some r.recordedAt.toJson)] := by
  have hjson : r.toJson = .obj (Json.written [("address", some r.address.toJson),
      ("args", some r.args), ("error", r.error.map .str), ("error_kind", r.kind.map (·.toJson)),
      ("index", some (.ofNat r.index)), ("output", some r.output),
      ("recorded_at", some r.recordedAt.toJson), ("success", some (.bool r.success))]) := by
    simp [toJson]
  rw [hjson, record?_written (by simp [Fields.keys])]
  simp [Fields.get?]

theorem ofDocument?_toJson {r : Record} (h : r.Valid) : ofDocument? (.value r.toJson) = some r := by
  have hindex : (Document.value (.ofNat r.index)).natural? indexBound = some r.index :=
    if_pos h.index
  have hkind : (ofOption (r.kind.map (·.toJson))).optional FailureKind.ofDocument? = some r.kind :=
    @optional_ofOption _ _ FailureKind.toJson (fun _ => nofun) FailureKind.ofDocument?_toJson _
  exact read_then r.record?_toJson <| read_then (required_ofOption hindex) <|
    read_then (required_ofOption (Address.ofDocument?_toJson _)) <| read_then rfl <|
    read_then rfl <| read_then (optional_string _) <| read_then hkind <| read_then rfl <|
    read_then (required_ofOption (Instant.ofDocument?_toJson h.recordedAt)) rfl

end Record

namespace State

/-- The records and the agents of a state have times that name moments, and indices that fit. -/
structure Valid (s : State) : Prop where
  log : ∀ r ∈ s.log, r.Valid
  agents : s.work.agents.Valid

/-- The three parts of a state as an object are read as the state. -/
theorem ofDocument?_obj {s : State} (h : s.Valid) :
    ofDocument? (.value (.obj [("agents", s.work.agents.toJson), ("context", .obj s.work.values),
      ("results", logJson s.log)])) = some s := by
  have hrecord : (Document.value (.obj [("agents", s.work.agents.toJson),
      ("context", .obj s.work.values), ("results", logJson s.log)])).record? .json
        ["results", "context", "agents"] =
      some [ofOption (some (logJson s.log)), ofOption (some (.obj s.work.values)),
        ofOption (some s.work.agents.toJson)] := by
    rw [record?_obj (by simp [Fields.keys])]
    simp [Fields.get?]
  have hlog : (Document.value (logJson s.log)).list? Record.ofDocument? = some s.log :=
    list?_map fun r hr => Record.ofDocument?_toJson (h.log r hr)
  exact read_then hrecord <| read_then (required_ofOption hlog) <|
    read_then (required_ofOption (tableOf?_json _)) <|
    read_then (required_ofOption (Agents.ofDocument?_toJson h.agents)) rfl

theorem ofDocument?_toJson {s : State} (h : s.Valid) : ofDocument? (.value s.toJson) = some s :=
  ofDocument?_obj h

end State

end ActionTree
