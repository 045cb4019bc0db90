import ActionTree.Document.Decode
import ActionTree.Space.Basic

/-!
# Nodes and menus as JSON

Members are listed by key; absent descriptions, handlers and empty argument tables are left out.

In the program: the serialized forms of `ArgType`, `Node`, `MenuOption` and `Menu`.
-/

namespace ActionTree

/-- A member that is listed only if there is a value. -/
def Json.optionalMember (key : String) : Option Json → List (String × Json)
  | some v => [(key, v)]
  | none => []

namespace Address

/-- An address as JSON: its text. -/
def toJson (a : Address) : Json := .str a.text

/-- The address that a document gives. -/
def ofDocument? (d : Document) : Option Address := d.string?.bind parse?

end Address

namespace ArgType

/-- A type as JSON: its name. -/
def toJson (t : ArgType) : Json := .str t.name

/-- The type that a document gives. -/
def ofDocument? (markup : Markup) (d : Document) : Option ArgType :=
  (d.choice? markup).bind ofName?

/-- A table of types as a member, unless it is empty. -/
def member (key : String) (args : Fields ArgType) : List (String × Json) :=
  if args.isEmpty then [] else [(key, .obj (args.map fun a => (a.1, a.2.toJson)))]

end ArgType

namespace Node

/-- A node as JSON. -/
def toJson (n : Node) : Json :=
  .obj ([("address", n.address.toJson)] ++ ArgType.member "arg_schema" n.args
    ++ Json.optionalMember "description" (n.description.map .str)
    ++ Json.optionalMember "handler_id" (n.handler.map .str) ++ [("label", .str n.label)])

/-- The node that a JSON document gives. -/
def ofDocument? (d : Document) : Option Node := do
  match ← d.record? .json ["address", "label", "description", "handler_id", "arg_schema"] with
  | [address, label, description, handler, args] =>
    return ⟨← address.required Address.ofDocument?, ← label.required Document.string?,
      ← description.optional Document.string?, ← handler.optional Document.string?,
      ← args.defaulting (Document.tableOf? (ArgType.ofDocument? .json)) []⟩
  | _ => none

end Node

namespace MenuOption

/-- A choice as JSON. -/
def toJson (o : MenuOption) : Json :=
  .obj ([("address", o.address.toJson)] ++ Json.optionalMember "handler_id" (o.handler.map .str)
    ++ [("label", .str o.label), ("option", .ofNat o.number.toNat)])

/-- The choice that a JSON document gives. -/
def ofDocument? (d : Document) : Option MenuOption := do
  match ← d.record? .json ["option", "address", "label", "handler_id"] with
  | [number, address, label, handler] =>
    return ⟨UInt32.ofNat (← number.required (Document.natural? UInt32.size)),
      ← address.required Address.ofDocument?, ← label.required Document.string?,
      ← handler.optional Document.string?⟩
  | _ => none

end MenuOption

namespace Menu

/-- A menu as JSON. -/
def toJson (m : Menu) : Json :=
  .obj ([("address", m.address.toJson)] ++ ArgType.member "args" m.args
    ++ Json.optionalMember "description" (m.description.map .str)
    ++ [("label", .str m.label), ("options", .arr (m.options.map (·.toJson)))])

/-- The menu that a JSON document gives. -/
def ofDocument? (d : Document) : Option Menu := do
  match ← d.record? .json ["address", "label", "description", "args", "options"] with
  | [address, label, description, args, options] =>
    return ⟨← address.required Address.ofDocument?, ← label.required Document.string?,
      ← description.optional Document.string?,
      ← args.defaulting (Document.tableOf? (ArgType.ofDocument? .json)) [],
      ← options.required (Document.list? MenuOption.ofDocument?)⟩
  | _ => none

end Menu

end ActionTree
