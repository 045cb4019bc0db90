import ActionTree.Handler.Builtin
import Mathlib.Data.List.Induction

/-!
# The built-in handlers

Under an id a registry has the last handler of that id that was registered. Each built-in handler
reads the workspace first and changes it last, so it changes nothing when it fails or when its call
is dropped; only two of them change the agents.

* `Registry.get?_ofHandlers`: what a registry has under an id.
* `Workspace.Edit.Keeps`, `Workspace.Edit.Atomic`: edits that leave a part of the workspace as it
  is, and edits that leave all of it as it is unless they succeed.
* `Registry.IsBuiltin`: the built-in handlers one by one.
* `Registry.IsBuiltin.atomic`: every built-in handler is atomic.
-/

namespace ActionTree

/-! ## Edits -/

namespace Workspace.Edit

variable {α β : Type} {x : Workspace.Edit α} {f : α → Workspace.Edit β}

/-- What an edit answers and leaves of a workspace. -/
def on (x : Workspace.Edit α) (work : Workspace) : Except ExecutionError α × Workspace :=
  x.run.run work

/-- An edit behind another one runs on what that leaves, unless that fails. -/
theorem on_bind (x : Workspace.Edit α) (f : α → Workspace.Edit β) (work : Workspace) :
    (x >>= f).on work =
      match x.on work with
      | (.ok a, work) => (f a).on work
      | (.error err, work) => (.error err, work) := by
  have hbind : (x >>= f).on work =
      ((ExceptT.bindCont f (x.on work).1).run (x.on work).2 :
        Except ExecutionError β × Workspace) := rfl
  rw [hbind]
  obtain ⟨r, work'⟩ := x.on work
  cases r <;> rfl

theorem on_ok_bind (a : α) (f : α → Workspace.Edit β) (work : Workspace) :
    (liftM (.ok a : Except ExecutionError α) >>= f).on work = (f a).on work := rfl

theorem on_get_bind (f : Workspace → Workspace.Edit β) (work : Workspace) :
    (get >>= f).on work = (f work).on work := rfl

/-- An edit leaves a part of every workspace as it is. -/
def Keeps {γ : Type} (part : Workspace → γ) (x : Workspace.Edit α) : Prop :=
  ∀ work, part (x.on work).2 = part work

/-- An edit that fails leaves the workspace as it is. -/
def Atomic (x : Workspace.Edit α) : Prop :=
  ∀ work err, (x.on work).1 = .error err → (x.on work).2 = work

section Keeps

variable {γ : Type} {part : Workspace → γ}

theorem keeps_lift (r : Except ExecutionError α) : Keeps part (liftM r) := fun _ => rfl

theorem keeps_pure (a : α) : Keeps part (pure a) := fun _ => rfl

theorem keeps_throw (err : ExecutionError) : Keeps (α := α) part (throw err) := fun _ => rfl

theorem keeps_get : Keeps part get := fun _ => rfl

theorem keeps_modify {g : Workspace → Workspace} (h : ∀ work, part (g work) = part work) :
    Keeps part (modify g) := h

theorem Keeps.bind (hx : Keeps part x) (hf : ∀ a, Keeps part (f a)) : Keeps part (x >>= f) := by
  intro work
  have hpart := hx work
  rw [on_bind]
  generalize x.on work = read at hpart
  obtain ⟨r, work'⟩ := read
  cases r with
  | ok a => exact (hf a work').trans hpart
  | error _ => exact hpart

end Keeps

theorem Keeps.atomic (h : Keeps id x) : Atomic x := fun work _ _ => h work

/-- What reads first may change the workspace afterwards. -/
theorem Atomic.bind (hx : Keeps id x) (hf : ∀ a, Atomic (f a)) : Atomic (x >>= f) := by
  intro work err h
  have hwork : (x.on work).2 = work := hx work
  rw [on_bind] at h ⊢
  generalize x.on work = read at hwork h
  obtain ⟨r, work'⟩ := read
  subst hwork
  cases r with
  | ok a => exact hf a work' err h
  | error _ => rfl

/-- A change before an answer does not fail. -/
theorem atomic_modify (g : Workspace → Workspace) (a : α) :
    Atomic (do modify g; return a) := fun _ _ h => by cases h

end Workspace.Edit

namespace SessionOp

open Workspace.Edit

theorem keeps_stored {γ : Type} (part : Workspace → γ) (op : SessionOp) (name : String) :
    Keeps part (stored op name) := by
  refine keeps_get.bind fun work => ?_
  cases work.values.get? name with
  | none => exact keeps_throw _
  | some v => exact keeps_pure v

/-- An operation reads before it writes, so it leaves the workspace as it is when it fails. -/
theorem atomic_edit (op : SessionOp) (args : Json) (c : Call) : Atomic (op.edit args c) := by
  cases op with
  | saveVar => exact .bind (keeps_lift _) fun name => atomic_modify _ _
  | getVar => exact (Keeps.bind (keeps_lift _) fun name => keeps_stored _ _ name).atomic
  | appendToVar =>
    refine .bind (keeps_lift _) fun name => .bind (keeps_stored _ _ name) fun old => ?_
    cases appended? (valueArg args) old with
    | none => exact (keeps_throw _).atomic
    | some new => exact atomic_modify _ _
  | deleteVar =>
    exact .bind (keeps_lift _) fun name => .bind (keeps_stored _ _ name) fun _ => atomic_modify _ _
  | listVars | sessionStats | exportSession =>
    exact (keeps_get.bind fun work => keeps_pure _).atomic

/-- No operation changes the agents. -/
theorem keeps_agents_edit (op : SessionOp) (args : Json) (c : Call) :
    Keeps (·.agents) (op.edit args c) := by
  have hset : ∀ (name : String) (v a : Json),
      Keeps (·.agents) (do modify (set · name v); return a : Workspace.Edit Json) :=
    fun name v a => (keeps_modify (g := (set · name v)) fun _ => rfl).bind fun _ => keeps_pure a
  cases op with
  | saveVar => exact (keeps_lift _).bind fun name => hset _ _ _
  | getVar => exact (keeps_lift _).bind fun name => keeps_stored _ _ name
  | appendToVar =>
    refine (keeps_lift _).bind fun name => (keeps_stored _ _ name).bind fun old => ?_
    cases appended? (valueArg args) old with
    | none => exact keeps_throw _
    | some new => exact hset _ _ _
  | deleteVar =>
    exact (keeps_lift _).bind fun name => (keeps_stored _ _ name).bind fun _ =>
      (keeps_modify (g := fun work => { work with values := work.values.erase name })
        fun _ => rfl).bind fun _ => keeps_pure _
  | listVars | sessionStats | exportSession => exact keeps_get.bind fun work => keeps_pure _

end SessionOp

namespace Completing

open Workspace.Edit Arguments

theorem atomic_dismiss (args : Json) (c : Call) : Atomic (dismiss args c) := by
  refine .bind (keeps_lift _) fun name => .bind keeps_get fun work => ?_
  cases work.agents.get? name with
  | none => exact (keeps_throw _).atomic
  | some a => exact atomic_modify _ _

/-- What a dismissal does, by the agent that it names. -/
theorem on_dismiss (args : Json) (c : Call) (work : Workspace) :
    (dismiss args c).on work =
      match stringArg? args ["name", "agent", "title"] with
      | none => (.error (missing ["name", "agent", "title"]), work)
      | some name =>
        match work.agents.get? name with
        | none => (.error (.failed "evict_agent" ("agent '" ++ name ++ "' not found")), work)
        | some a =>
          (.ok (.obj [("agent", .str name), ("evicted", .bool true), ("turns", .ofNat a.turns)]),
            { work with agents := work.agents.dismiss name }) := by
  unfold dismiss requiredString
  cases stringArg? args ["name", "agent", "title"] with
  | none => rfl
  | some name =>
    simp only [on_ok_bind, on_get_bind]
    cases work.agents.get? name <;> rfl

end Completing

/-! ## Handlers -/

namespace Handler

variable {σ : Type}

/-- A handler changes the workspace only when it succeeds, and a call that is dropped has not
changed it. -/
structure Atomic (h : Handler σ) : Prop where
  failed : ∀ args c w err, (h.invoke args c w).result = .error err →
    (h.invoke args c w).work = c.work
  dropped : ∀ args c w work w', h.interrupt args c w = some (work, w') → work = c.work

theorem atomic_ofAction (id description : String)
    (action : Json → Call → Except ExecutionError (Json × Workspace)) :
    (ofAction id description action : Handler σ).Atomic where
  failed args c w err h := by
    cases haction : action args c with
    | ok r => simp [ofAction, Ended.ofAction, haction] at h
    | error e => simp [ofAction, Ended.ofAction, haction]
  dropped _ _ _ _ _ h := by cases h

theorem atomic_ofEdit {id description : String} {edit : Json → Call → Workspace.Edit Json}
    (h : ∀ args c, (edit args c).Atomic) : (ofEdit id description edit : Handler σ).Atomic where
  failed args c _ err herr := h args c c.work err herr
  dropped _ _ _ _ _ h := by cases h

/-- A call of a handler that edits the workspace ends as the edit does. -/
theorem on_of_invoke {id description : String} {edit : Json → Call → Workspace.Edit Json}
    {args : Json} {c : Call} {w w' : σ} {result : Except ExecutionError Json} {work : Workspace}
    (h : (ofEdit id description edit).invoke args c w = ⟨result, work, w'⟩) :
    (edit args c).on c.work = (result, work) :=
  Prod.ext (congrArg Ended.result h) (congrArg Ended.work h)

end Handler

/-- A call of a tool leaves the workspace as it is. -/
theorem ToolCalls.work_invoke {σ : Type} (tools : Toolbox σ) (args : Json) (c : Call) (w : σ) :
    ((handler tools).invoke args c w).work = c.work := by
  cases hplan : plan args <;> simp [handler, hplan]

theorem ToolCalls.atomic_handler {σ : Type} (tools : Toolbox σ) : (handler tools).Atomic where
  failed args c w err _ := work_invoke tools args c w
  dropped args c w work w' h := by
    cases hplan : plan args <;> simp [handler, hplan] at h
    obtain ⟨_, _, rfl, _⟩ := h
    rfl

theorem Completing.atomic_handler {σ : Type} (provider : Option (Provider σ))
    (settings : CompletionSettings) : (handler provider settings).Atomic where
  failed args c w err h := by
    cases hplan : plan provider settings args c with
    | error e => simp [handler, hplan]
    | ok r =>
      obtain ⟨p, x⟩ := r
      simp only [handler, hplan] at h ⊢
      split at h
      · cases h
      · rfl
  dropped args c w work w' h := by
    cases hplan : plan provider settings args c <;> simp [handler, hplan] at h
    obtain ⟨_, _, rfl, _⟩ := h
    rfl

namespace Registry

variable {σ : Type}

/-- Under an id a registry has the last handler of that id in its list. -/
theorem get?_ofHandlers (hs : List (Handler σ)) (id : String) :
    (ofHandlers hs).get? id = hs.reverse.find? (·.id = id) := by
  induction hs using List.reverseRecOn with
  | nil => rfl
  | append_singleton hs h ih =>
    rw [List.reverse_concat, List.find?_cons, ← ih]
    unfold ofHandlers register
    rw [List.foldl_append, List.foldl_cons, List.foldl_nil, Fields.get?_put]
    by_cases hid : id = h.id
    · simp [hid]
    · simp [hid, Ne.symm hid]

theorem mem_of_get?_ofHandlers {hs : List (Handler σ)} {id : String} {h : Handler σ}
    (hget : (ofHandlers hs).get? id = some h) : h ∈ hs ∧ h.id = id := by
  rw [get?_ofHandlers] at hget
  exact ⟨List.mem_reverse.1 (List.mem_of_find?_eq_some hget), by simpa using List.find?_some hget⟩

/-- A handler is one of the built-in ones. -/
inductive IsBuiltin (tools : Toolbox σ) (provider : Option (Provider σ))
    (settings : CompletionSettings) : Handler σ → Prop
  | callTool : IsBuiltin tools provider settings (ToolCalls.handler tools)
  | listTools : IsBuiltin tools provider settings (ToolCalls.listHandler tools)
  | complete : IsBuiltin tools provider settings (Completing.handler provider settings)
  | listAgents : IsBuiltin tools provider settings Completing.listHandler
  | dismissAgent : IsBuiltin tools provider settings Completing.dismissHandler
  | session (op : SessionOp) : IsBuiltin tools provider settings op.handler

section Builtin

variable {tools : Toolbox σ} {provider : Option (Provider σ)} {settings : CompletionSettings}
  {h : Handler σ}

theorem isBuiltin_of_mem (hmem : h ∈ builtinHandlers tools provider settings) :
    IsBuiltin tools provider settings h := by
  simp only [builtinHandlers, List.mem_append, List.mem_cons, List.not_mem_nil, or_false,
    List.mem_map] at hmem
  rcases hmem with (rfl | rfl | rfl | rfl | rfl) | ⟨op, -, rfl⟩
  · exact .callTool
  · exact .listTools
  · exact .complete
  · exact .listAgents
  · exact .dismissAgent
  · exact .session op

theorem isBuiltin_of_get? {id : String}
    (hget : (builtin tools provider settings).get? id = some h) :
    IsBuiltin tools provider settings h ∧ h.id = id := by
  obtain ⟨hmem, hid⟩ := mem_of_get?_ofHandlers hget
  exact ⟨isBuiltin_of_mem hmem, hid⟩

/-- Every built-in handler is atomic. -/
theorem IsBuiltin.atomic (hbuiltin : IsBuiltin tools provider settings h) : h.Atomic := by
  cases hbuiltin with
  | callTool => exact ToolCalls.atomic_handler tools
  | complete => exact Completing.atomic_handler provider settings
  | dismissAgent => exact Handler.atomic_ofEdit Completing.atomic_dismiss
  | session op => exact Handler.atomic_ofEdit op.atomic_edit
  | listTools | listAgents => exact Handler.atomic_ofAction ..

end Builtin

end Registry

end ActionTree
