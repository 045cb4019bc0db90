import ActionTree.Instant.Basic

/-!
# Messages

A message of a conversation: who says what, when, under which id.

In the program: `Role` and `Message`. Its constructors `user`, `assistant` and `system` are
`Stamp.message` for a role, with the id and the time that they make up given as a `Stamp`.
-/

namespace ActionTree

/-- Who speaks. -/
inductive Role where
  | user
  | assistant
  | system
  deriving DecidableEq

namespace Role

/-- The name of a role. -/
def name : Role → String
  | user => "user"
  | assistant => "assistant"
  | system => "system"

/-- The role of a name. -/
def ofName? : String → Option Role
  | "user" => some user
  | "assistant" => some assistant
  | "system" => some system
  | _ => none

@[simp] theorem ofName?_name (r : Role) : ofName? r.name = some r := by cases r <;> rfl

end Role

/-- One message of a conversation. -/
structure Message where
  id : String
  role : Role
  content : String
  sentAt : Instant
  deriving DecidableEq

/-- The id and the time of a new message. -/
structure Stamp where
  id : String
  time : Instant
  deriving DecidableEq

/-- A new message. -/
def Stamp.message (s : Stamp) (role : Role) (content : String) : Message :=
  ⟨s.id, role, content, s.time⟩

end ActionTree
