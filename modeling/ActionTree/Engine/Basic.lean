import ActionTree.Handler.Basic
import ActionTree.Line.Parser
import ActionTree.Session.Codec

/-!
# Running lines

An engine has a tree, handlers and options. It runs the steps of a command in order. Each step that
is started leaves one record: the address is looked up, the arguments are resolved against the
records so far, and the handler is called; a menu answers with itself. A failed step ends the line
unless the engine continues on errors.

A line may carry a signal that cancels it. The engine looks at the signal before each step, and a
call that waits when the signal fires is dropped: its step is recorded as cancelled and ends the
line.

In the program: `EngineOptions`, `CancelSignal` (`Signal`), `ChainOutcome` (`Outcome`) and `Engine`.
Its `run_step` is `runStep` with `invoke` as `attempt`, the loop in `execute` is `runSteps`,
`execute_line_cancellable` is `executeLine`, and `new_session` and `unbound_nodes` have their names
here.

* `Engine.attempt`: what one step does, up to its record.
* `Engine.runSteps`: the steps of a line.
* `Engine.execute`: a whole command and its outcome.
-/

namespace ActionTree

/-- How an engine treats failures. -/
structure EngineOptions where
  /-- Do later steps run after a failed one? -/
  continueOnError : Bool
  deriving DecidableEq

/-- A signal that cancels a line, in a world with states `σ`. -/
structure Signal (σ : Type) where
  /-- Has the signal fired? -/
  fired : σ → Bool
  /-- What may happen to the world before the engine looks. -/
  pass : σ → σ

/-- What a line did. -/
structure Outcome where
  /-- The records of the line, in order. -/
  steps : List Record
  /-- All steps ran and succeeded. -/
  success : Bool
  cancelled : Bool
  /-- The cursor after the line. -/
  cursor : Address

namespace Outcome

/-- An outcome as JSON. -/
def toJson (o : Outcome) : Json :=
  .obj [("cancelled", .bool o.cancelled), ("cursor", o.cursor.toJson),
    ("steps", State.logJson o.steps), ("success", .bool o.success)]

end Outcome

/-- A tree with handlers, in a world with states `σ`. -/
structure Engine (σ : Type) where
  space : Space
  handlers : Registry σ
  options : EngineOptions

namespace Engine

variable {σ : Type}

/-- A new session at the root of the tree. -/
def newSession (e : Engine σ) (id : String) : Session :=
  .new id ((e.space.root?.map (·.address)).getD .root)

/-- Is the node an action without a handler under its id? -/
def isUnbound (e : Engine σ) (n : Node) : Bool :=
  match n.handler with
  | some id => !e.handlers.has id
  | none => false

/-- The actions without a handler under their id. -/
def unboundNodes (e : Engine σ) : List Node := e.space.nodes.filter e.isUnbound

/-- The menu of a node as JSON. -/
def menuJson (e : Engine σ) (a : Address) : Json := ((e.space.menu? a).map (·.toJson)).getD .null

/-- What a step did: the arguments it ran with, its output or failure, and what it left behind. -/
structure Attempt (σ : Type) where
  args : Json
  result : Except Failure Json
  work : Workspace
  world : σ
  /-- The address of the node, if there is one. -/
  resolved : Option Address

/-- What the handler of a node sees of a session. -/
def callOf (session : Session) (address : Address) (moment : Moment) : Call :=
  ⟨session.id, address, session.state.log, session.state.work, moment⟩

/-- The workspace and the world in which a call is dropped: the signal of the line has fired while
the handler of the id waits. -/
def interruption? (e : Engine σ) (signal : Option (Signal σ)) (id : String) (args : Json) (c : Call)
    (w : σ) : Option (Workspace × σ) :=
  signal.bind fun s => (e.handlers.interrupt id args c w).filter fun dropped => s.fired dropped.2

/-- A call of the handler under an id: dropped if the signal fires while it waits. -/
def dispatch (e : Engine σ) (signal : Option (Signal σ)) (id : String) (args : Json) (c : Call)
    (w : σ) : Except Failure Json × Workspace × σ :=
  match e.interruption? signal id args c w with
  | some (work, w) => (.error .cancelled, work, w)
  | none =>
    let ended := e.handlers.invoke id args c w
    (ended.result.mapError .execution, ended.work, ended.world)

/-- What a step at an address does. -/
def attempt (e : Engine σ) (signal : Option (Signal σ)) (moment : Moment) (step : Step)
    (address : Address) (session : Session) (w : σ) : Attempt σ :=
  match e.space.resolve? address with
  | none =>
    ⟨.obj step.rawArgs, .error (.addressNotFound address.text), session.state.work, w, none⟩
  | some node =>
    match step.template.resolve session.state.log with
    | .error r => ⟨.obj step.rawArgs, .error (.reference r), session.state.work, w, some address⟩
    | .ok args =>
      match node.handler with
      | none => ⟨args, .ok (e.menuJson node.address), session.state.work, w, some address⟩
      | some id =>
        let (result, work, w) :=
          e.dispatch signal id args (callOf session node.address moment) w
        ⟨args, result, work, w, some address⟩

/-- The record of an attempt. -/
def Attempt.record (a : Attempt σ) (index : Nat) (address : Address) (now : Instant) : Record :=
  match a.result with
  | .ok output => .ofOutput index address a.args output now
  | .error f => .ofFailure index address a.args f now

/-- What a started step leaves: its record, the session and the world. -/
structure Stepped (σ : Type) where
  record : Record
  session : Session
  world : σ
  resolved : Option Address

/-- One step, recorded. -/
def runStep (e : Engine σ) (signal : Option (Signal σ)) (moment : Moment) (step : Step)
    (session : Session) (w : σ) : Stepped σ :=
  let address := step.target.at_ session.nav.cursor
  let a := e.attempt signal moment step address session w
  let record := a.record session.state.nextIndex address moment.time
  let state := { session.state with work := a.work }
  let state := match state.append record with
    | .ok s => s
    | .error _ => state
  ⟨record, { session with state := state }, a.world, a.resolved⟩

/-- What the steps of a line left: their records, whether the line was cancelled, and the address of
the last step whose node exists. -/
structure Run (σ : Type) where
  records : List Record
  cancelled : Bool
  resolved : Option Address
  session : Session
  world : σ

/-- Is the record one of a cancelled step? -/
def isCancelled (r : Record) : Bool := r.kind == some .cancelled

/-- Has the signal fired, and the world it was looked at in. -/
def poll (signal : Option (Signal σ)) (w : σ) : Bool × σ :=
  match signal with
  | some s => let w := s.pass w; (s.fired w, w)
  | none => (false, w)

/-- The steps of a line, one after the other. -/
def runSteps (e : Engine σ) (signal : Option (Signal σ)) (moment : Moment) :
    List Step → Session → σ → Run σ
  | [], session, w => ⟨[], false, none, session, w⟩
  | step :: rest, session, w =>
    let (fired, w) := poll signal w
    if fired then ⟨[], true, none, session, w⟩
    else
      let s := e.runStep signal moment step session w
      if isCancelled s.record then ⟨[s.record], true, s.resolved, s.session, s.world⟩
      else if !s.record.success && !e.options.continueOnError then
        ⟨[s.record], false, s.resolved, s.session, s.world⟩
      else
        let r := runSteps e signal moment rest s.session s.world
        { r with records := s.record :: r.records, resolved := r.resolved.or s.resolved }

/-- What a command left. -/
structure Executed (σ : Type) where
  outcome : Outcome
  session : Session
  world : σ

/-- A whole command. A single step moves the cursor to its node, if that exists. -/
def execute (e : Engine σ) (signal : Option (Signal σ)) (moment : Moment) (command : Command)
    (session : Session) (w : σ) : Executed σ :=
  let r := e.runSteps signal moment command.steps session w
  let nav := match r.resolved with
    | some a => if command.movesCursor then r.session.nav.moveTo a else r.session.nav
    | none => r.session.nav
  let success := !r.cancelled && r.records.all (·.success)
  ⟨⟨r.records, success, r.cancelled, nav.cursor⟩, { r.session with nav := nav }, r.world⟩

/-- A whole line, if it can be read. -/
def executeLine (e : Engine σ) (signal : Option (Signal σ)) (moment : Moment) (line : String)
    (session : Session) (w : σ) : Except ParseError (Executed σ) :=
  (Line.parse line).map fun command => e.execute signal moment command session w

end Engine

end ActionTree
