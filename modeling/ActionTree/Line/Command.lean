import ActionTree.Template.Basic

/-!
# Commands

A command is what an accepted line asks for: one step at an address (`jump`), several steps in order
(`chain`), or one step at a child of the current node (`shortcut`). A step has a target and an
argument object, which is compiled into a template once.

In the program: `Target`, `ChainStep` (`Step`) and `Command`, with `steps` and `moves_cursor`.

* `Command.steps`: the steps in order.
* `Command.movesCursor`: single steps move the cursor, chains do not.
-/

namespace ActionTree

/-- Where a step goes. -/
inductive Target where
  | absolute (address : Address)
  /-- A child of the node that is current when the step runs. -/
  | relative (number : UInt32)
  deriving DecidableEq

namespace Target

/-- The text of a target. -/
def text : Target → String
  | absolute a => a.text
  | relative n => "RELATIVE(" ++ toString n.toNat ++ ")"

/-- The address that a target means at a cursor. -/
def at_ (cursor : Address) : Target → Address
  | absolute a => a
  | relative n => cursor.child n

end Target

/-- A step of a line. -/
structure Step where
  target : Target
  /-- The arguments as written. -/
  rawArgs : Fields Json
  deriving DecidableEq

namespace Step

/-- The arguments with their references compiled. -/
def template (s : Step) : Template := .ofArgs s.rawArgs

end Step

/-- What a line asks for. -/
inductive Command where
  | jump (step : Step)
  | chain (steps : List Step)
  | shortcut (step : Step)
  deriving DecidableEq

namespace Command

/-- The steps, in order. -/
def steps : Command → List Step
  | jump s => [s]
  | chain ss => ss
  | shortcut s => [s]

/-- Single steps move the cursor, chains do not. -/
def movesCursor : Command → Bool
  | chain _ => false
  | _ => true

end Command

end ActionTree
