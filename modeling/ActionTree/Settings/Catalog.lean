import ActionTree.Space.Codec

/-!
# Catalogs

A catalog lists the nodes of a tree as settings give them, with addresses still as text. A parent is
listed before its children. The built-in catalog stands in for an empty one.

In the program: `NodeConfig` (`CatalogEntry`) with `to_node`, and `default_catalog`
(`Catalog.builtin`).

* `CatalogEntry.node`: the node of an entry.
* `Catalog.build`: the tree of a catalog, or the first error.
-/

namespace ActionTree

/-- One node, as settings list it. -/
structure CatalogEntry where
  address : String
  label : String
  description : Option String
  handler : Option String
  args : Fields ArgType
  deriving DecidableEq

namespace CatalogEntry

/-- The node of an entry. -/
def node (c : CatalogEntry) : Except AddressError Node :=
  (Address.parse c.address).map fun a => ⟨a, c.label, c.description, c.handler, c.args⟩

/-- An entry of the built-in catalog. -/
def shipped (address label description : String) (handler : Option String)
    (args : List (String × ArgType)) : CatalogEntry :=
  ⟨address, label, some description, handler, Fields.ofList args⟩

/-- An entry as JSON; absent parts and an empty argument table are left out. -/
def toJson (c : CatalogEntry) : Json :=
  .obj ([("address", .str c.address)] ++ ArgType.member "args" c.args
    ++ Json.optionalMember "description" (c.description.map .str)
    ++ Json.optionalMember "handler" (c.handler.map .str) ++ [("label", .str c.label)])

/-- The entry that a document gives. -/
def ofDocument? (markup : Markup) (d : Document) : Option CatalogEntry := do
  match ← d.record? markup ["address", "label", "description", "handler", "args"] with
  | [address, label, description, handler, args] =>
    return ⟨← address.required Document.string?, ← label.required Document.string?,
      ← description.optional Document.string?, ← handler.optional Document.string?,
      ← args.defaulting (Document.tableOf? (ArgType.ofDocument? markup)) []⟩
  | _ => none

end CatalogEntry

namespace Catalog

/-- The tree with the node of one more entry. -/
def addEntry (s : Space) (c : CatalogEntry) : Except AddressError Space := do
  s.insert (← c.node)

/-- The tree of a catalog, or the error of the first entry that cannot be added. -/
def build (entries : List CatalogEntry) : Except AddressError Space :=
  entries.foldlM addEntry .empty

/-- The catalog that is used when none is given. -/
def builtin : List CatalogEntry :=
  [.shipped "0" "TreeShell" "Main menu" none [],
    .shipped "0.1" "Conversation" "Chat with named agents" none [],
    .shipped "0.1.1" "Start chat" "Send a message, optionally to a named agent"
      (some "model_completion")
      [("message", .string), ("title", .string), ("system_prompt", .string)],
    .shipped "0.1.2" "Continue chat" "Send a follow-up to an existing agent"
      (some "model_completion") [("agent", .string), ("message", .string)],
    .shipped "0.1.3" "List agents" "Agents alive in this session" (some "list_agents") [],
    .shipped "0.1.4" "Evict agent" "Forget an agent and its history" (some "evict_agent")
      [("name", .string)],
    .shipped "0.2" "Session variables" "Named values kept for this session" none [],
    .shipped "0.2.1" "Save variable" "Store a value under a name" (some "save_var")
      [("name", .string), ("value", .any)],
    .shipped "0.2.2" "Get variable" "Read a stored value" (some "get_var") [("name", .string)],
    .shipped "0.2.3" "Append to variable" "Push onto a list or extend a string"
      (some "append_to_var") [("name", .string), ("value", .any)],
    .shipped "0.2.4" "Delete variable" "Remove a stored value" (some "delete_var")
      [("name", .string)],
    .shipped "0.2.5" "List variables" "Names of stored values" (some "list_vars") [],
    .shipped "0.2.6" "Session stats" "Counts for this session" (some "session_stats") [],
    .shipped "0.2.7" "Export session" "Results, variables and agents as JSON"
      (some "export_session") [],
    .shipped "0.5" "Tools" "Run registered tools" none [],
    .shipped "0.5.1" "Run tool" "Execute a tool by name" (some "tool_call")
      [("tool_name", .string), ("parameters", .object)],
    .shipped "0.5.2" "List tools" "Registered tools and their parameters" (some "list_tools") []]

/-- A catalog, or the built-in one in place of an empty one. -/
def effective (entries : List CatalogEntry) : List CatalogEntry :=
  if entries.isEmpty then builtin else entries

end Catalog

end ActionTree
