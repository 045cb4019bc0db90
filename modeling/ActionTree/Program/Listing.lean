import ActionTree.Settings.Display

/-!
# Listings

In the program: the output of the commands `tree` and `config`.

* `Space.listing`: a tree, a node a line, indented by depth, with the arguments under a node.
* `Settings.listing`: the settings, headed by the path that they come from.
-/

namespace ActionTree

/-- The text with blanks behind it up to a number of characters. -/
def padded (width : Nat) (s : String) : String :=
  String.ofList (s.toList ++ List.replicate (width - s.length) ' ')

namespace Node

/-- The blanks in front of a node. -/
def indentation (n : Node) : String :=
  String.ofList (List.replicate (2 * (n.address.depth - 1)) ' ')

/-- What a node is bound to, in brackets. -/
def binding (n : Node) : String := "[" ++ n.handler.getD "menu" ++ "]"

/-- The arguments of a node with their types. -/
def argList (n : Node) : String :=
  ", ".intercalate (n.args.map fun a => a.1 ++ ": " ++ a.2.name)

/-- The lines of a node. -/
def listing (n : Node) : String :=
  n.indentation ++ padded 10 n.address.text ++ " " ++ padded 22 n.label ++ " " ++ n.binding ++ "\n"
    ++ (if n.args.isEmpty then ""
      else n.indentation ++ padded 10 "" ++ " args: " ++ n.argList ++ "\n")

end Node

/-- A tree under the name of what it drives. -/
def Space.listing (s : Space) (appId : String) : String :=
  appId ++ " (" ++ toString s.size ++ " nodes)\n" ++ String.join (s.nodes.map (·.listing))

namespace Settings

/-- What is said if there is no key. -/
def keyNotice : String :=
  "# No API key set (TREESHELL_API_KEY or OPENAI_API_KEY); model completion is disabled\n"

/-- The settings, headed by the path that they come from. -/
def listing (s : Settings) (path : String) : String :=
  "# " ++ path ++ "\n" ++ (if s.hasApiKey then "" else keyNotice) ++ s.shown

end Settings

end ActionTree
