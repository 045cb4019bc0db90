import ActionTree.Engine.Basic

/-!
# Lines of a shell

Besides commands a shell knows a few directives: the empty line and `menu` show the menu of the
cursor, `back` goes back and shows the menu there, `history` lists the records, `exit` and `quit`
end the shell. Directives may be in any ASCII case and have blanks around them.

In the program: `TreeShell` with `Response`, `current_menu` and `dispatch`, which is `handle` here
and stands behind both `handle` and `handle_cancellable`.

* `Directive.ofLine?`: the directive that a line is.
* `Engine.handle`: the response to a line.
-/

namespace ActionTree

/-- A line that is not a command. -/
inductive Directive where
  | menu
  | back
  | history
  | exit
  deriving DecidableEq

namespace Directive

/-- The directive that a line is. -/
def ofLine? (line : String) : Option Directive :=
  match String.ofList (Text.lower (Text.trim line.toList)) with
  | "" | "menu" => some menu
  | "back" => some back
  | "history" => some history
  | "exit" | "quit" => some exit
  | _ => none

end Directive

/-- What a line of a shell is answered with. -/
inductive Response where
  | outcome (o : Outcome)
  | menu (m : Menu)
  | history (log : List Record)
  | exit
  | rejected (e : ParseError)

namespace Response

/-- A response as JSON. -/
def toJson : Response → Json
  | outcome o => o.toJson
  | menu m => m.toJson
  | history log => .obj [("history", State.logJson log)]
  | exit => .obj [("exit", .bool true)]
  | rejected e => .obj [("rejected", .str e.message)]

/-- Rejected lines and failed outcomes are failures. -/
def isFailure : Response → Bool
  | outcome o => !o.success
  | rejected _ => true
  | _ => false

/-- Does the response end the shell? -/
def isExit : Response → Bool
  | exit => true
  | _ => false

end Response

namespace Engine

variable {σ : Type}

/-- The menu at the cursor of a session. -/
def currentMenu (e : Engine σ) (session : Session) : Menu :=
  (e.space.menu? session.nav.cursor).getD (.blank session.nav.cursor)

/-- What a line of a shell left. -/
structure Handled (σ : Type) where
  response : Response
  session : Session
  world : σ

/-- The response to a directive. -/
def obey (e : Engine σ) (d : Directive) (session : Session) : Response × Session :=
  match d with
  | .menu => (.menu (e.currentMenu session), session)
  | .back =>
    let session := { session with nav := session.nav.back }
    (.menu (e.currentMenu session), session)
  | .history => (.history session.state.log, session)
  | .exit => (.exit, session)

/-- The response to a line. -/
def handle (e : Engine σ) (signal : Option (Signal σ)) (moment : Moment) (line : String)
    (session : Session) (w : σ) : Handled σ :=
  match Directive.ofLine? line with
  | some d => let (response, session) := e.obey d session; ⟨response, session, w⟩
  | none =>
    match e.executeLine signal moment line session w with
    | .ok x => ⟨.outcome x.outcome, x.session, x.world⟩
    | .error err => ⟨.rejected err, session, w⟩

end Engine

end ActionTree
