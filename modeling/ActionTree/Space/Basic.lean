import ActionTree.Address.Basic
import ActionTree.Fields

/-!
# The tree of nodes

A node has an address, a label and, if it is an action, the id of its handler; a node without one is
a menu. A `Space` holds nodes in the order of their declaration, each with the addresses of its
children. `insert` adds a node under a parent that is already there; nothing is ever removed.

In the program: `ArgType`, `Node`, `MenuOption`, `Menu`, `AddressSpace` (`Space`) with `resolve`,
`children_of`, `menu`, `root` and `iter` (`nodes`), and `AddressSpaceBuilder`, whose `insert` is
`insert` and whose `node` and `build` are `build`.

* `resolve?`, `children`, `menu?`: look-ups by address.
* `root?`: the first node with an address of one segment.
* `build`: all nodes of a list, or the error of the first that cannot be added.
-/

namespace ActionTree

/-- The declared type of an argument. It is shown, not enforced. -/
inductive ArgType where
  | string
  | integer
  | number
  | boolean
  | object
  | array
  | any
  deriving DecidableEq

namespace ArgType

/-- The name of a type. -/
def name : ArgType → String
  | string => "string"
  | integer => "integer"
  | number => "number"
  | boolean => "boolean"
  | object => "object"
  | array => "array"
  | any => "any"

/-- The type of a name; most types have a short name as well. -/
def ofName? : String → Option ArgType
  | "string" | "str" => some string
  | "integer" | "int" => some integer
  | "number" | "float" => some number
  | "boolean" | "bool" => some boolean
  | "object" | "dict" => some object
  | "array" | "list" => some array
  | "any" => some any
  | _ => none

@[simp] theorem ofName?_name (t : ArgType) : ofName? t.name = some t := by cases t <;> rfl

end ArgType

/-- A place in the tree. -/
structure Node where
  address : Address
  /-- What menus show. -/
  label : String
  description : Option String
  /-- The id of the handler of an action. A menu has none. -/
  handler : Option String
  /-- The arguments the handler takes. -/
  args : Fields ArgType
  deriving DecidableEq

namespace Node

/-- A node without description and arguments. -/
def plain (address : Address) (label : String) (handler : Option String) : Node :=
  ⟨address, label, none, handler, []⟩

/-- A node without a handler is a menu. -/
def isMenu (n : Node) : Bool := n.handler.isNone

end Node

/-- One choice of a menu. -/
structure MenuOption where
  /-- The number that selects the choice. -/
  number : UInt32
  address : Address
  label : String
  handler : Option String
  deriving DecidableEq

/-- A node with its children, for display. -/
structure Menu where
  address : Address
  label : String
  description : Option String
  args : Fields ArgType
  options : List MenuOption
  deriving DecidableEq

/-- A menu without a node behind it. -/
def Menu.blank (address : Address) : Menu := ⟨address, "", none, [], []⟩

/-- The choice that a child is. -/
def MenuOption.ofNode (n : Node) : MenuOption := ⟨n.address.last, n.address, n.label, n.handler⟩

/-- A tree of nodes. It keeps the nodes once, and their addresses twice more: in the order of
declaration, and by parent. -/
structure Space where
  /-- The nodes, each to be found by its address. -/
  table : List Node
  /-- The addresses of the nodes, in the order of declaration. -/
  order : List Address
  /-- For each address with children their addresses, in the order of declaration. -/
  index : List (Address × List Address)
  deriving DecidableEq

namespace Space

/-- The tree without nodes. -/
def empty : Space := ⟨[], [], []⟩

/-- The node at an address. -/
def resolve? (s : Space) (a : Address) : Option Node := s.table.find? (·.address = a)

/-- All nodes, in the order of declaration. -/
def nodes (s : Space) : List Node := s.order.filterMap s.resolve?

/-- The number of nodes. -/
def size (s : Space) : Nat := s.table.length

/-- The addresses of the children of an address. -/
def childAddresses (s : Space) (a : Address) : List Address :=
  ((s.index.find? (·.1 = a)).map (·.2)).getD []

/-- The children of an address, in the order of declaration. -/
def children (s : Space) (a : Address) : List Node := (s.childAddresses a).filterMap s.resolve?

/-- The first node with an address of one segment. -/
def root? (s : Space) : Option Node := s.nodes.find? (·.address.depth = 1)

/-- The menu of a node. -/
def menu? (s : Space) (a : Address) : Option Menu :=
  (s.resolve? a).map fun n =>
    ⟨n.address, n.label, n.description, n.args, (s.children a).map .ofNode⟩

/-- An index with one more child listed under a parent. -/
def adopt (parent child : Address) : List (Address × List Address) → List (Address × List Address)
  | [] => [(parent, [child])]
  | (p, cs) :: rest =>
    if p = parent then (p, cs ++ [child]) :: rest else (p, cs) :: adopt parent child rest

/-- The tree with one more node, which is listed under its parent. -/
def grow (s : Space) (n : Node) : Space where
  table := n :: s.table
  order := s.order ++ [n.address]
  index := match n.address.parent? with
    | none => s.index
    | some p => adopt p n.address s.index

/-- A node added under its parent, which must be there; no address is used twice. -/
def insert (s : Space) (n : Node) : Except AddressError Space :=
  if (s.resolve? n.address).isSome then .error (.duplicate n.address.text)
  else match n.address.parent? with
    | none => .ok (s.grow n)
    | some p =>
      if (s.resolve? p).isSome then .ok (s.grow n)
      else .error (.missingParent n.address.text p.text)

/-- The tree after an attempt to add a node: unchanged if that failed. -/
def attempt (s : Space) (n : Node) : Space :=
  match s.insert n with
  | .ok t => t
  | .error _ => s

/-- A tree of all the nodes of a list, or the error of the first that cannot be added. -/
def build (ns : List Node) : Except AddressError Space := ns.foldlM insert empty

/-- A node is found under its own address only. -/
theorem address_of_resolve? {s : Space} {a : Address} {n : Node} (h : s.resolve? a = some n) :
    n.address = a := by
  simpa using List.find?_some h

/-- A node that is found has a menu. -/
theorem exists_menu?_of_resolve? {s : Space} {a : Address} {n : Node} (h : s.resolve? a = some n) :
    ∃ m, s.menu? a = some m := ⟨_, by rw [menu?, h]; rfl⟩

end Space

end ActionTree
