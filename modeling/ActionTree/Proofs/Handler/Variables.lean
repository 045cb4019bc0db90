import ActionTree.Proofs.Handler.Completion
import Mathlib.Logic.Function.Basic

/-!
# Operations on variables

An operation on variables reads its arguments, looks a variable up and writes it last. So what it
does is determined by the name and the value that its arguments give and by what the workspace has
under that name: the name is a string of more than blanks, trimmed, and the value is null if there
is none. Only three operations write, and no other built-in handler does.

* `SessionOp.NamedBy`, `SessionOp.stringArg?_name_iff`: the name that arguments give.
* `SessionOp.Appends`, `SessionOp.appended?_eq_some_iff`: what is made of a value by appending.
* `SessionOp.on_saveVar`, `SessionOp.on_getVar`, `SessionOp.on_appendToVar`,
  `SessionOp.on_deleteVar`, `SessionOp.on_listVars`: what each operation answers and leaves.
* `SessionOp.StoreRule`, `SessionOp.rule_of_on`: what an operation that succeeds does to a store.
* `SessionOp.Usable`, `SessionOp.exists_on_eq_ok_iff`: when an operation succeeds.
* `Registry.IsBuiltin.values_of_answer`: the other built-in handlers leave the variables alone.
-/

namespace ActionTree

open Arguments

namespace SessionOp

open Workspace.Edit Text

/-! ## Arguments -/

/-- Arguments name a variable: by a string that has more than blanks, trimmed. -/
def NamedBy (args : Json) (name : String) : Prop :=
  ∃ text, args.get? "name" = some (.str text) ∧ trim text.toList ≠ [] ∧ name = trimmed text

theorem stringArg?_name_iff {args : Json} {name : String} :
    stringArg? args ["name"] = some name ↔ NamedBy args name := by
  have hone : stringArg? args ["name"] = (args.get? "name").bind usableString? := by
    unfold stringArg?
    cases h : (args.get? "name").bind usableString? <;> simp [List.findSome?, h]
  rw [hone, NamedBy, Option.bind_eq_some_iff]
  constructor
  · rintro ⟨v, hv, husable⟩
    obtain ⟨text, htext, hname⟩ := Option.bind_eq_some_iff.1 husable
    obtain rfl := Json.string?_eq_some_iff.1 htext
    split at hname
    · cases hname
    · rename_i hsome
      exact ⟨text, hv, by simpa using hsome, (Option.some.inj hname).symm⟩
  · rintro ⟨text, hv, hsome, rfl⟩
    exact ⟨_, hv, by simp [usableString?, hsome]⟩

/-- What appending a value makes of another one: an array gets it as its last item, a string gets
it behind its end, as it is if it is a string and as compact JSON if it is not. -/
inductive Appends (v : Json) : Json → Json → Prop
  | item (items : List Json) : Appends v (.arr items) (.arr (items ++ [v]))
  | string {more : String} (text : String) (h : v = .str more) :
      Appends v (.str text) (.str (text ++ more))
  | value (text : String) (h : ∀ more, v ≠ .str more) :
      Appends v (.str text) (.str (text ++ v.compact))

theorem appended?_eq_some_iff {v old new : Json} :
    appended? v old = some new ↔ Appends v old new := by
  constructor
  · intro h
    cases old with
    | arr items =>
      obtain rfl := Option.some.inj h
      exact .item items
    | str text =>
      obtain rfl := Option.some.inj h
      cases v with
      | str more => exact .string text rfl
      | _ => exact .value text (by simp)
    | _ => cases h
  · rintro (⟨items⟩ | ⟨text, rfl⟩ | ⟨text, h⟩)
    · rfl
    · rfl
    · cases v with
      | str more => exact absurd rfl (h more)
      | _ => rfl

/-- Arrays and strings can be appended to, other values cannot. -/
theorem exists_appends_iff {v old : Json} :
    (∃ new, Appends v old new) ↔ (∃ items, old = .arr items) ∨ ∃ text, old = .str text := by
  simp only [← appended?_eq_some_iff]
  cases old <;> simp [appended?]

/-! ## What the operations do -/

section On

variable (args : Json) (c : Call) (work : Workspace)

theorem on_stored (op : SessionOp) (name : String) :
    (stored op name).on work =
      match work.values.get? name with
      | none => (.error (op.notFound name), work)
      | some v => (.ok v, work) := by
  unfold stored
  rw [on_get_bind]
  cases work.values.get? name <;> rfl

theorem on_nameArg_bind (f : String → Workspace.Edit Json) :
    (liftM (nameArg args) >>= f).on work =
      match stringArg? args ["name"] with
      | none => (.error (missing ["name"]), work)
      | some name => (f name).on work := by
  unfold nameArg requiredString
  cases stringArg? args ["name"] <;> rfl

theorem on_stored_bind (op : SessionOp) (name : String) (f : Json → Workspace.Edit Json) :
    (stored op name >>= f).on work =
      match work.values.get? name with
      | none => (.error (op.notFound name), work)
      | some v => (f v).on work := by
  rw [on_bind, on_stored]
  cases work.values.get? name <;> rfl

theorem on_saveVar :
    (edit .saveVar args c).on work =
      match stringArg? args ["name"] with
      | none => (.error (missing ["name"]), work)
      | some name =>
        (.ok (.obj [("saved", .bool true), ("value", valueArg args), ("variable", .str name)]),
          set work name (valueArg args)) :=
  on_nameArg_bind args work _

theorem on_getVar :
    (edit .getVar args c).on work =
      match stringArg? args ["name"] with
      | none => (.error (missing ["name"]), work)
      | some name =>
        match work.values.get? name with
        | none => (.error (getVar.notFound name), work)
        | some v => (.ok v, work) := by
  refine (on_nameArg_bind args work _).trans ?_
  cases stringArg? args ["name"] with
  | none => rfl
  | some name => exact on_stored work .getVar name

theorem on_appendToVar :
    (edit .appendToVar args c).on work =
      match stringArg? args ["name"] with
      | none => (.error (missing ["name"]), work)
      | some name =>
        match work.values.get? name with
        | none => (.error (appendToVar.notFound name), work)
        | some old =>
          match appended? (valueArg args) old with
          | none =>
            (.error (.failed appendToVar.id ("cannot append to a " ++ old.kindName ++ " variable")),
              work)
          | some new =>
            (.ok (.obj [("appended", .bool true), ("new_value", new), ("variable", .str name)]),
              set work name new) := by
  refine (on_nameArg_bind args work _).trans ?_
  cases stringArg? args ["name"] with
  | none => rfl
  | some name =>
    refine (on_stored_bind work .appendToVar name _).trans ?_
    dsimp only
    cases work.values.get? name with
    | none => rfl
    | some old =>
      dsimp only
      cases appended? (valueArg args) old <;> rfl

theorem on_deleteVar :
    (edit .deleteVar args c).on work =
      match stringArg? args ["name"] with
      | none => (.error (missing ["name"]), work)
      | some name =>
        match work.values.get? name with
        | none => (.error (deleteVar.notFound name), work)
        | some _ =>
          (.ok (.obj [("deleted", .bool true), ("variable", .str name)]),
            { work with values := work.values.erase name }) := by
  refine (on_nameArg_bind args work _).trans ?_
  cases stringArg? args ["name"] with
  | none => rfl
  | some name => exact on_stored_bind work .deleteVar name _

theorem on_listVars :
    (edit .listVars args c).on work =
      (.ok (.obj [("count", .ofNat work.values.length), ("variables", .obj work.values)]), work) :=
  rfl

end On

end SessionOp

/-! ## A plain store -/

/-- The values of variables, by name. -/
abbrev Store := String → Option Json

namespace Workspace

/-- The variables of a workspace, as a store. -/
def store (work : Workspace) : Store := fun name => work.values.get? name

theorem store_set (work : Workspace) (name : String) (v : Json) :
    (SessionOp.set work name v).store = Function.update work.store name (some v) := by
  funext other
  rw [Function.update_apply]
  exact Fields.get?_put name other v work.values

theorem store_erase (work : Workspace) (name : String) :
    store { work with values := work.values.erase name } =
      Function.update work.store name none := by
  funext other
  rw [Function.update_apply]
  exact Fields.get?_erase name other work.values

end Workspace

namespace SessionOp

/-- The operations on variables; the other two report on the session. -/
def onVariables : List SessionOp := [saveVar, getVar, appendToVar, deleteVar, listVars]

/-- The operations that change variables. -/
def writing : List SessionOp := [saveVar, appendToVar, deleteVar]

theorem writing_subset : writing ⊆ onVariables := by simp [writing, onVariables]

/-- What an operation on variables answers where a store has `s`, and what the store has behind
it. -/
inductive StoreRule (args : Json) (s : Store) : SessionOp → Json → Store → Prop
  | saved {name : String} (hname : NamedBy args name) :
      StoreRule args s .saveVar
        (.obj [("saved", .bool true), ("value", valueArg args), ("variable", .str name)])
        (Function.update s name (some (valueArg args)))
  | read {name : String} {v : Json} (hname : NamedBy args name) (hold : s name = some v) :
      StoreRule args s .getVar v s
  | appended {name : String} {old new : Json} (hname : NamedBy args name)
      (hold : s name = some old) (hnew : Appends (valueArg args) old new) :
      StoreRule args s .appendToVar
        (.obj [("appended", .bool true), ("new_value", new), ("variable", .str name)])
        (Function.update s name (some new))
  | deleted {name : String} {v : Json} (hname : NamedBy args name) (hold : s name = some v) :
      StoreRule args s .deleteVar (.obj [("deleted", .bool true), ("variable", .str name)])
        (Function.update s name none)
  | listed {values : Fields Json} (hsorted : values.Sorted)
      (hvalues : ∀ name, values.get? name = s name) :
      StoreRule args s .listVars
        (.obj [("count", .ofNat values.length), ("variables", .obj values)]) s

/-- An operation has an answer: it is named a variable if it needs a name, which is one of the store
unless it saves, and one that can be appended to if it appends. -/
def Usable (args : Json) (s : Store) : SessionOp → Prop
  | saveVar => ∃ name, NamedBy args name
  | getVar | deleteVar => ∃ name, NamedBy args name ∧ ∃ v, s name = some v
  | appendToVar =>
    ∃ name, NamedBy args name ∧ ((∃ items, s name = some (.arr items)) ∨
      ∃ text, s name = some (.str text))
  | listVars | sessionStats | exportSession => True

section Rules

variable {args : Json} {c : Call} {work work' : Workspace} {output : Json}

/-- An operation succeeds if and only if it has an answer. -/
theorem exists_on_eq_ok_iff (op : SessionOp) :
    (∃ output, ((op.edit args c).on work).1 = .ok output) ↔ Usable args work.store op := by
  cases op with
  | saveVar =>
    simp only [Usable, ← stringArg?_name_iff, on_saveVar]
    cases stringArg? args ["name"] <;> simp
  | getVar =>
    simp only [Usable, ← stringArg?_name_iff, on_getVar, Workspace.store]
    cases stringArg? args ["name"] with
    | none => simp
    | some name => cases h : work.values.get? name <;> simp [h]
  | appendToVar =>
    simp only [Usable, ← stringArg?_name_iff, on_appendToVar, Workspace.store]
    cases stringArg? args ["name"] with
    | none => simp
    | some name =>
      cases h : work.values.get? name with
      | none => simp [h]
      | some old =>
        -- Whether there is anything to append to is asked of the value that the store has.
        have happends : (∃ new, Appends (valueArg args) old new) ↔
            (∃ items, old = .arr items) ∨ ∃ text, old = .str text := exists_appends_iff
        simp only [← appended?_eq_some_iff] at happends
        cases hnew : appended? (valueArg args) old <;> simp_all
  | deleteVar =>
    simp only [Usable, ← stringArg?_name_iff, on_deleteVar, Workspace.store]
    cases stringArg? args ["name"] with
    | none => simp
    | some name => cases h : work.values.get? name <;> simp [h]
  | listVars | sessionStats | exportSession => exact ⟨fun _ => trivial, fun _ => ⟨_, rfl⟩⟩

/-- An operation on variables that succeeds follows the rule of the store. -/
theorem rule_of_on {op : SessionOp} (hop : op ∈ onVariables) (hsorted : work.values.Sorted)
    (h : (op.edit args c).on work = (.ok output, work')) :
    StoreRule args work.store op output work'.store ∧ work'.values.Sorted := by
  -- An operation looks for its name, then for the value; what is left of each case is the case of
  -- the rule.
  cases op with
  | saveVar =>
    rw [on_saveVar] at h
    split at h
    · cases h
    · rename_i name hname
      cases h
      rw [Workspace.store_set]
      exact ⟨.saved (stringArg?_name_iff.1 hname), hsorted.put _ _⟩
  | getVar =>
    rw [on_getVar] at h
    split at h
    · cases h
    rename_i name hname
    split at h
    · cases h
    · rename_i v hold
      cases h
      exact ⟨.read (stringArg?_name_iff.1 hname) hold, hsorted⟩
  | appendToVar =>
    rw [on_appendToVar] at h
    split at h
    · cases h
    rename_i name hname
    split at h
    · cases h
    rename_i old hold
    split at h
    · cases h
    · rename_i new hnew
      cases h
      rw [Workspace.store_set]
      exact ⟨.appended (stringArg?_name_iff.1 hname) hold (appended?_eq_some_iff.1 hnew),
        hsorted.put _ _⟩
  | deleteVar =>
    rw [on_deleteVar] at h
    split at h
    · cases h
    rename_i name hname
    split at h
    · cases h
    · rename_i v hold
      cases h
      rw [Workspace.store_erase]
      exact ⟨.deleted (stringArg?_name_iff.1 hname) hold, hsorted.erase _⟩
  | listVars =>
    rw [on_listVars] at h
    cases h
    exact ⟨.listed hsorted fun _ => rfl, hsorted⟩
  | sessionStats | exportSession => simp [onVariables] at hop

/-- The operations that report on the session leave the workspace as it is. -/
theorem work_of_report {op : SessionOp} (hop : op ∉ onVariables) (args : Json) (c : Call)
    (work : Workspace) : ((op.edit args c).on work).2 = work := by
  cases op with
  | sessionStats | exportSession => rfl
  | _ => simp [onVariables] at hop

end Rules

end SessionOp

/-- The other built-in handlers have ids of their own. -/
theorem SessionOp.ne_id_of_mem {id : String}
    (h : id ∈ ["tool_call", "list_tools", "model_completion", "list_agents", "evict_agent"])
    (op : SessionOp) : id ≠ op.id := by
  rintro rfl
  cases op <;> revert h <;> decide

/-- Operations have different ids. -/
theorem SessionOp.id_inj {op other : SessionOp} : op.id = other.id ↔ op = other := by
  refine ⟨fun h => ?_, congrArg _⟩
  cases op <;> cases other <;> first | rfl | exact absurd h (by decide)

/-- A completion leaves the variables as they are. -/
theorem Exchange.values_commit (c : Call) (x : Exchange) (reply : Message) :
    (x.commit c reply).values = c.work.values := by
  unfold Exchange.commit
  cases x.agent <;> rfl

/-- So does a dismissal. -/
theorem Completing.keeps_values_dismiss (args : Json) (c : Call) :
    (Completing.dismiss args c).Keeps (·.values) := by
  intro work
  rw [Completing.on_dismiss]
  split
  · rfl
  split <;> rfl

namespace Registry

variable {σ : Type} {tools : Toolbox σ} {provider : Option (Provider σ)}
  {settings : CompletionSettings} {h : Handler σ} {args : Json} {c : Call} {w : σ}

/-- The built-in handlers have the one of each operation. -/
theorem get?_builtin_session (op : SessionOp) :
    (builtin tools provider settings).get? op.id = some op.handler := by
  rw [builtin, get?_ofHandlers]
  cases op <;> rfl

/-- A call of a built-in handler that succeeds is one of an operation, or leaves the variables as
they are. -/
theorem IsBuiltin.values_of_answer (hbuiltin : IsBuiltin tools provider settings h) {output : Json}
    {work : Workspace} {w' : σ} (hended : h.invoke args c w = ⟨.ok output, work, w'⟩) :
    (∃ op : SessionOp, h.id = op.id ∧ (op.edit args c).on c.work = (.ok output, work)) ∨
      (∀ op : SessionOp, h.id ≠ op.id) ∧ work.values = c.work.values := by
  -- Only the handlers of operations touch the variables, and these are the first alternative.
  cases hbuiltin with
  | callTool =>
    have hwork : work = c.work := by rw [← ToolCalls.work_invoke tools args c w, hended]
    exact .inr ⟨SessionOp.ne_id_of_mem (by simp), congrArg Workspace.values hwork⟩
  | listTools | listAgents =>
    cases hended
    exact .inr ⟨SessionOp.ne_id_of_mem (by simp), rfl⟩
  | complete =>
    refine .inr ⟨SessionOp.ne_id_of_mem (by simp), ?_⟩
    simp only [Completing.handler] at hended
    split at hended
    · cases hended
    · rename_i p x hplan
      split at hended
      · cases hended
        exact Exchange.values_commit c x _
      · cases hended
  | dismissAgent =>
    have hdismiss : (Completing.dismiss args c).on c.work = (.ok output, work) :=
      Handler.on_of_invoke hended
    have hkept := Completing.keeps_values_dismiss args c c.work
    rw [hdismiss] at hkept
    exact .inr ⟨SessionOp.ne_id_of_mem (by simp), hkept⟩
  | session op => exact .inl ⟨op, rfl, Handler.on_of_invoke hended⟩

end Registry

end ActionTree
