import ActionTree.Program.Conversation
import ActionTree.Proofs.Engine.Step
import ActionTree.Proofs.Handler.Builtin
import ActionTree.Tool.Command
import Mathlib.Data.List.Forall2
import Mathlib.Data.Option.Defs

/-!
# Engines in two worlds

A map of worlds goes along two engines over one tree if their handlers answer alike in a world and
in its image, and leave images of one another behind. Then whole runs go along it: what a shell
answers and keeps in its session is the same in both worlds, and the world that the one run leaves
is mapped to that of the other.

* `Handler.Along`, `Signal.Along`, `Engine.Along`: what goes along a map.
* `Registry.IsBuiltin.along`, `Registry.along_builtin`: the built-in handlers, by their tools and
  their provider.
* `Engine.runStep_along`: one step.
* `Engine.runSteps_along`, `Engine.converse_along`: the steps of a line and the lines of a shell.
-/

namespace ActionTree

variable {σ τ : Type} (f : σ → τ)

/-! ## Handlers -/

/-- The end of a call, in the image of its world. -/
def Ended.map (x : Ended σ) : Ended τ := ⟨x.result, x.work, f x.world⟩

/-- Calls of two handlers go along a map. -/
structure Handler.Along (h : Handler σ) (h' : Handler τ) : Prop where
  id : h'.id = h.id
  invoke : ∀ args c w, h'.invoke args c (f w) = (h.invoke args c w).map f
  interrupt : ∀ args c w,
    h'.interrupt args c (f w) = (h.interrupt args c w).map fun x => (x.1, f x.2)

/-- Calls of two tables of tools go along a map. -/
structure Toolbox.Along (tools : Toolbox σ) (tools' : Toolbox τ) : Prop where
  definitions : tools'.definitions = tools.definitions
  execute : ∀ name ps w,
    tools'.execute name ps (f w) = ((tools.execute name ps w).1, f (tools.execute name ps w).2)
  interrupt : ∀ name ps w, tools'.interrupt name ps (f w) = (tools.interrupt name ps w).map f

/-- A command in two shells goes along a map. -/
structure ShellHost.Along (shell : ShellHost σ) (shell' : ShellHost τ) (command : String) :
    Prop where
  run : ∀ seconds w, shell'.run command seconds (f w) =
    ((shell.run command seconds w).1, f (shell.run command seconds w).2)
  interrupt : ∀ w, shell'.interrupt command (f w) = (shell.interrupt command w).map f

/-- Requests to two providers go along a map. -/
structure Provider.Along (p : Provider σ) (p' : Provider τ) : Prop where
  complete : ∀ request stamp w,
    p'.complete request stamp (f w) =
      ((p.complete request stamp w).1, f (p.complete request stamp w).2)
  interrupt : ∀ request w, p'.interrupt request (f w) = (p.interrupt request w).map f

section Handlers

variable {f}

/-- A handler that never waits and leaves the world alone goes along every map. -/
theorem Handler.along_ofAction (id description : String)
    (action : Json → Call → Except ExecutionError (Json × Workspace)) :
    Handler.Along f (.ofAction id description action) (.ofAction id description action) where
  id := rfl
  invoke args c w := by
    simp only [ofAction]
    cases action args c <;> rfl
  interrupt _ _ _ := rfl

theorem Handler.along_ofEdit (id description : String)
    (edit : Json → Call → Workspace.Edit Json) :
    Handler.Along f (.ofEdit id description edit) (.ofEdit id description edit) where
  id := rfl
  invoke _ _ _ := rfl
  interrupt _ _ _ := rfl

/-- The command tool is the only built-in one. -/
theorem Toolbox.get?_builtin (policy : CommandPolicy) (shell : ShellHost σ) (name : String) :
    (builtin policy shell).get? name =
      if name = CommandTool.name then some (CommandTool.tool policy shell) else none :=
  Fields.get?_put CommandTool.name name _ []

/-- No command is started that is not allowed. -/
theorem CommandTool.isAllowed_of_launch {policy : CommandPolicy} {args : Json} {command : String}
    (h : launch policy args = .ok command) : isAllowed policy command = true := by
  unfold launch at h
  split at h
  · cases h
  split at h
  · cases h
    assumption
  · cases h

theorem Toolbox.along_builtin {policy : CommandPolicy} {shell : ShellHost σ} {shell' : ShellHost τ}
    (h : ∀ command, CommandTool.isAllowed policy command = true → shell.Along f shell' command) :
    Toolbox.Along f (builtin policy shell) (builtin policy shell') where
  definitions := rfl
  execute name ps w := by
    simp only [execute, get?_builtin]
    by_cases hname : name = CommandTool.name
    · simp only [if_pos hname, CommandTool.tool]
      cases hlaunch : CommandTool.launch policy ps with
      | error err => rfl
      | ok command => simp only [(h command (CommandTool.isAllowed_of_launch hlaunch)).run]
    · simp only [if_neg hname]
  interrupt name ps w := by
    simp only [interrupt, get?_builtin]
    by_cases hname : name = CommandTool.name
    · simp only [if_pos hname, CommandTool.tool, Option.bind_some]
      cases hlaunch : CommandTool.launch policy ps with
      | error err => rfl
      | ok command => exact (h command (CommandTool.isAllowed_of_launch hlaunch)).interrupt w
    · simp only [if_neg hname, Option.bind_none, Option.map_none]

theorem ToolCalls.along_handler {tools : Toolbox σ} {tools' : Toolbox τ}
    (h : tools.Along f tools') : Handler.Along f (handler tools) (handler tools') where
  id := rfl
  invoke args c w := by
    simp only [handler]
    cases plan args with
    | error err => rfl
    | ok call => simp only [h.execute, Ended.map]
  interrupt args c w := by
    simp only [handler]
    cases plan args with
    | error err => rfl
    | ok call =>
      simp only [h.interrupt, Option.map_map]
      rfl

theorem ToolCalls.along_listHandler {tools : Toolbox σ} {tools' : Toolbox τ}
    (h : tools.Along f tools') : Handler.Along f (listHandler tools) (listHandler tools') := by
  have hsame : (listHandler tools' : Handler τ) =
      .ofAction "list_tools" "List registered tools" fun _ c =>
        .ok (.obj [("count", .ofNat tools.definitions.length),
          ("tools", .arr (tools.definitions.map (·.toJson)))], c.work) := by
    rw [listHandler, h.definitions]
  rw [hsame]
  exact Handler.along_ofAction ..

theorem Completing.along_handler {provider : Option (Provider σ)} {provider' : Option (Provider τ)}
    (h : Option.Rel (Provider.Along f) provider provider') (settings : CompletionSettings) :
    Handler.Along f (handler provider settings) (handler provider' settings) where
  id := rfl
  invoke args c w := by
    cases h with
    | none =>
      simp only [handler, plan]
      cases exchange settings args c <;> rfl
    | some hp =>
      simp only [handler, plan]
      cases exchange settings args c with
      | error err => rfl
      | ok x =>
        simp only [bind, Except.bind, pure, Except.pure, hp.complete]
        obtain ⟨result, w'⟩ := Provider.complete _ (x.request settings c) c.replyStamp w
        cases result <;> rfl
  interrupt args c w := by
    cases h with
    | none =>
      simp only [handler, plan]
      cases exchange settings args c <;> rfl
    | some hp =>
      simp only [handler, plan]
      cases exchange settings args c with
      | error err => rfl
      | ok x =>
        simp only [bind, Except.bind, pure, Except.pure, hp.interrupt, Option.map_map]
        rfl

end Handlers

/-! ## Registries -/

namespace Registry

variable {f}

/-- Handlers that go along a map one by one are found alike. -/
theorem along_ofHandlers {hs : List (Handler σ)} {hs' : List (Handler τ)}
    (h : List.Forall₂ (Handler.Along f) hs hs') (id : String) :
    Option.Rel (Handler.Along f) ((ofHandlers hs).get? id) ((ofHandlers hs').get? id) := by
  rw [get?_ofHandlers, get?_ofHandlers]
  -- The last of them with the id counts.
  have hback : List.Forall₂ (Handler.Along f) hs.reverse hs'.reverse := List.rel_reverse h
  generalize hs.reverse = back, hs'.reverse = back' at hback
  induction hback with
  | nil => exact .none
  | cons hfirst _ ih =>
    rw [List.find?_cons, List.find?_cons, hfirst.id]
    split
    · exact .some hfirst
    · exact ih

theorem along_builtin {tools : Toolbox σ} {tools' : Toolbox τ} {provider : Option (Provider σ)}
    {provider' : Option (Provider τ)} (htools : tools.Along f tools')
    (hprovider : Option.Rel (Provider.Along f) provider provider') (settings : CompletionSettings)
    (id : String) :
    Option.Rel (Handler.Along f) ((builtin tools provider settings).get? id)
      ((builtin tools' provider' settings).get? id) := by
  have hops : List.Forall₂ (Handler.Along f) (SessionOp.all.map (·.handler))
      (SessionOp.all.map (·.handler)) :=
    List.forall₂_map_left_iff.2 <| List.forall₂_map_right_iff.2 <| List.forall₂_same.2
      fun op _ => Handler.along_ofEdit op.id op.description op.edit
  refine along_ofHandlers ?_ id
  exact .cons (ToolCalls.along_handler htools) <| .cons (ToolCalls.along_listHandler htools) <|
    .cons (Completing.along_handler hprovider settings) <| .cons (Handler.along_ofAction ..) <|
    .cons (Handler.along_ofEdit ..) hops

end Registry

/-! ## Engines -/

/-- Two signals go along a map. -/
structure Signal.Along (s : Signal σ) (s' : Signal τ) : Prop where
  fired : ∀ w, s'.fired (f w) = s.fired w
  pass : ∀ w, s'.pass (f w) = f (s.pass w)

/-- Calls in two engines over one tree go along a map. -/
structure Engine.Along (e : Engine σ) (e' : Engine τ) : Prop where
  space : e'.space = e.space
  options : e'.options = e.options
  handlers : ∀ id, Option.Rel (Handler.Along f) (e.handlers.get? id) (e'.handlers.get? id)

namespace Engine

/-- What a step leaves, in the image of its world. -/
def Attempt.map (x : Attempt σ) : Attempt τ := ⟨x.args, x.result, x.work, f x.world, x.resolved⟩

/-- What a step leaves, in the image of its world. -/
def Stepped.map (x : Stepped σ) : Stepped τ := ⟨x.record, x.session, f x.world, x.resolved⟩

/-- What the steps of a line leave, in the image of their world. -/
def Run.map (x : Run σ) : Run τ := ⟨x.records, x.cancelled, x.resolved, x.session, f x.world⟩

/-- What a command leaves, in the image of its world. -/
def Executed.map (x : Executed σ) : Executed τ := ⟨x.outcome, x.session, f x.world⟩

/-- What a line leaves, in the image of its world. -/
def Handled.map (x : Handled σ) : Handled τ := ⟨x.response, x.session, f x.world⟩

end Engine

/-- What lines leave, in the image of their world. -/
def Conversation.map (x : Conversation σ) : Conversation τ := ⟨x.answers, x.session, f x.world⟩

namespace Engine

variable {f} {e : Engine σ} {e' : Engine τ} {signal : Option (Signal σ)}
  {signal' : Option (Signal τ)}

theorem invoke_along (h : e.Along f e') (id : String) (args : Json) (c : Call) (w : σ) :
    e'.handlers.invoke id args c (f w) = (e.handlers.invoke id args c w).map f := by
  have hget := h.handlers id
  unfold Registry.invoke
  generalize e.handlers.get? id = found, e'.handlers.get? id = found' at hget
  cases hget with
  | none => rfl
  | some hfound => exact hfound.invoke args c w

theorem interrupt_along (h : e.Along f e') (id : String) (args : Json) (c : Call) (w : σ) :
    e'.handlers.interrupt id args c (f w) =
      (e.handlers.interrupt id args c w).map fun x => (x.1, f x.2) := by
  have hget := h.handlers id
  unfold Registry.interrupt
  generalize e.handlers.get? id = found, e'.handlers.get? id = found' at hget
  cases hget with
  | none => rfl
  | some hfound => exact hfound.interrupt args c w

theorem newSession_along (h : e.Along f e') (id : String) : e'.newSession id = e.newSession id := by
  rw [newSession, newSession, h.space]

theorem poll_along (h : Option.Rel (Signal.Along f) signal signal') (w : σ) :
    poll signal' (f w) = ((poll signal w).1, f (poll signal w).2) := by
  cases h with
  | none => rfl
  | some hs => simp only [poll, hs.pass, hs.fired]

/-- Whether a call is dropped is the same in both worlds. -/
theorem interruption?_along (h : e.Along f e') (hs : Option.Rel (Signal.Along f) signal signal')
    (id : String) (args : Json) (c : Call) (w : σ) :
    e'.interruption? signal' id args c (f w) =
      (e.interruption? signal id args c w).map fun x => (x.1, f x.2) := by
  cases hs with
  | none => rfl
  | some hs =>
    simp only [interruption?, Option.bind_some, interrupt_along h]
    cases e.handlers.interrupt id args c w with
    | none => rfl
    | some dropped =>
      simp only [Option.map_some, Option.filter_some, hs.fired]
      split <;> rfl

theorem dispatch_along (h : e.Along f e') (hs : Option.Rel (Signal.Along f) signal signal')
    (id : String) (args : Json) (c : Call) (w : σ) :
    e'.dispatch signal' id args c (f w) =
      let x := e.dispatch signal id args c w
      (x.1, x.2.1, f x.2.2) := by
  simp only [dispatch, interruption?_along h hs, invoke_along h]
  cases e.interruption? signal id args c w <;> rfl

section Runs

variable (h : e.Along f e') (hs : Option.Rel (Signal.Along f) signal signal') (moment : Moment)

include h hs

theorem attempt_along (step : Step) (address : Address) (session : Session) (w : σ) :
    e'.attempt signal' moment step address session (f w) =
      (e.attempt signal moment step address session w).map f := by
  have hmenu : ∀ a, e'.menuJson a = e.menuJson a := fun a => by rw [menuJson, menuJson, h.space]
  unfold attempt
  rw [h.space]
  split
  · rfl
  split
  · rfl
  split
  · rw [hmenu]
    rfl
  · rw [dispatch_along h hs]
    rfl

/-- A step goes along the map. -/
theorem runStep_along (step : Step) (session : Session) (w : σ) :
    e'.runStep signal' moment step session (f w) =
      (e.runStep signal moment step session w).map f := by
  simp only [runStep, attempt_along h hs]
  rfl

/-- The steps of a line go along the map, one after the other. -/
theorem runSteps_along (steps : List Step) (session : Session) (w : σ) :
    e'.runSteps signal' moment steps session (f w) =
      (e.runSteps signal moment steps session w).map f := by
  induction steps generalizing session w with
  | nil => rfl
  | cons step rest ih =>
    have hgoes : ∀ r, e'.goesOn r = e.goesOn r := fun r => by rw [goesOn, goesOn, h.options]
    rw [runSteps_cons, runSteps_cons, poll_along hs]
    split
    · rfl
    · simp only [runStep_along h hs, Stepped.map, hgoes]
      split
      · rw [ih]
        rfl
      · rfl

theorem execute_along (command : Command) (session : Session) (w : σ) :
    e'.execute signal' moment command session (f w) =
      (e.execute signal moment command session w).map f := by
  simp only [execute, runSteps_along h hs]
  rfl

theorem handle_along (line : String) (session : Session) (w : σ) :
    e'.handle signal' moment line session (f w) =
      (e.handle signal moment line session w).map f := by
  have hobey : ∀ d, e'.obey d session = e.obey d session := by
    intro d
    cases d <;> simp only [obey, currentMenu, h.space]
  simp only [handle, executeLine, execute_along h hs, hobey]
  split
  · rfl
  · cases Line.parse line <;> rfl

end Runs

/-- The lines of a shell go along the map, one after the other. -/
theorem converse_along (h : e.Along f e') (hs : Option.Rel (Signal.Along f) signal signal')
    (moments : Nat → Moment) (n : Nat) (lines : List String) (session : Session) (w : σ) :
    e'.converse signal' moments n lines session (f w) =
      (e.converse signal moments n lines session w).map f := by
  induction lines generalizing n session w with
  | nil => rfl
  | cons line rest ih =>
    simp only [converse, handle_along h hs, Handled.map]
    split
    · rfl
    · rw [ih]
      rfl

end Engine

end ActionTree
