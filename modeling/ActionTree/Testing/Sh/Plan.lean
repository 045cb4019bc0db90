import ActionTree.Testing.Sh.Executable.Basic

/-!
# Programs that start programs

A program that starts other ones has a `Plan`: what it does on its own, which programs it starts,
and how it goes on when they have ended.

* `Plan`: what a program goes on with.
* `Delegate`: a program that has a plan.
-/

namespace ActionTree.Sh

/-- What a program that is started reads. -/
inductive Intake where
  /-- The input of the program that starts it. -/
  | shared
  | nothing
  | text (cs : Bytes)

/-- A program that is started: its words, the first of which is its name, and what it finds. -/
structure Start where
  words : List Bytes
  environment : List (Bytes × Bytes)
  directory : Bytes
  input : Intake
  /-- When it is killed, in milliseconds from its start on, and by which signal. -/
  limit : Option (Nat × Nat)

/-- The program of some words in a scene. -/
def Start.inScene (s : Scene) (words : List Bytes) : Start :=
  ⟨words, s.environment, s.directory, .shared, none⟩

/-- How a program ended that another one started. -/
inductive Ending where
  | status (n : Nat)
  /-- By a signal. -/
  | signal (n : Nat)
  /-- It took longer than it was allowed to. -/
  | late
  /-- It could not be started. -/
  | missing (t : Trouble)

/-- What a program goes on with that starts other ones. -/
inductive Plan where
  /-- It ends with a status. -/
  | finish (status : Nat)
  /-- It is killed by a signal. -/
  | die (signal : Nat)
  /-- It does something on its own, which may end it, and goes on with what it then finds. -/
  | act (x : Act Unit) (next : Scene → Plan)
  /-- It starts a program and waits for its end. -/
  | start (s : Start) (next : Ending → Plan)
  /-- It starts a program, waits for its end and takes what that wrote to its output. -/
  | collect (s : Start) (next : Ending → Bytes → Plan)
  /-- It becomes another program, unless that cannot be started. -/
  | become (s : Start) (next : Trouble → Plan)

/-- A program that starts other ones: what it plans when it is given its arguments. -/
abbrev Delegate := List Bytes → Act Plan

namespace Plan

/-- A message, and then the end with a status. -/
def fail (text : Bytes) (status : Nat) : Plan := .act (Act.warn text) fun _ => .finish status

/-- The status of a program that cannot start another one. -/
def statusOf (t : Trouble) : Nat := if t = .absent then 127 else 126

end Plan

end ActionTree.Sh
