import ActionTree.Proofs.Engine.Atomicity
import ActionTree.Proofs.Engine.Outcome
import ActionTree.Proofs.Handler.Variables

/-!
# Variables as a plain store

The variables of a session can be read off its log. A store that is empty in the beginning changes
with the records of successful calls of three operations, saving, appending and deleting, and with
no other record. After any steps the variables are that store, and an operation succeeds if and
only if the store has what it needs.

* `Engine.store`: the store that a log tells of.
* `Engine.store_of_step`: a step changes the variables as its record changes the store.
* `Tells.of_reached`: the variables of every session that a shell passes.
* `Engine.runStep_of_calls`: what a step with an operation records and leaves.
* `Engine.variables_are_a_store`: the whole account.
-/

namespace ActionTree

open Arguments SessionOp

namespace Engine

variable {σ : Type} (e : Engine σ)

/-- A record is of a successful call of an operation. -/
def Performs (op : SessionOp) (r : Record) : Prop :=
  r.success = true ∧ (e.space.resolve? r.address).bind (·.handler) = some op.id

/-- A record is of a successful call of an operation with the variable of a name. -/
def Uses (op : SessionOp) (name : String) (r : Record) : Prop :=
  e.Performs op r ∧ stringArg? r.args ["name"] = some name

instance (op : SessionOp) (r : Record) : Decidable (e.Performs op r) :=
  inferInstanceAs (Decidable (_ ∧ _))

instance (op : SessionOp) (name : String) (r : Record) : Decidable (e.Uses op name r) :=
  inferInstanceAs (Decidable (_ ∧ _))

/-- What a store has under each name behind a step with this record: a saved value, what there was
with a value appended to it, nothing if it was deleted, and what there was if none of these. -/
def change (s : Store) (r : Record) : Store := fun name =>
  if e.Uses .saveVar name r then some (valueArg r.args)
  else if e.Uses .appendToVar name r then (s name).bind (appended? (valueArg r.args))
  else if e.Uses .deleteVar name r then none
  else s name

/-- The store behind steps with these records, from an empty one on. -/
def store (log : List Record) : Store := log.foldl e.change fun _ => none

@[simp] theorem store_concat (log : List Record) (r : Record) :
    e.store (log ++ [r]) = e.change (e.store log) r := by
  rw [store, List.foldl_append]
  rfl

section Change

variable {e} {op : SessionOp} {r : Record} {s s' : Store}

theorem performs_succeeded_iff {c : Call} {node : Node} {args : Json}
    (hnode : e.space.resolve? c.address = some node) (output : Json) :
    e.Performs op (c.succeeded args output) ↔ node.handler = some op.id := by
  simp [Performs, Call.succeeded, hnode]

theorem not_performs_of_failure (h : r.success = false) (op : SessionOp) : ¬e.Performs op r := by
  simp [Performs, h]

/-- A record is of one operation only. -/
theorem Performs.unique (h : e.Performs op r) {other : SessionOp} (hother : e.Performs other r) :
    other = op :=
  id_inj.1 (Option.some.inj (hother.2.symm.trans h.2))

theorem Performs.uses_iff (h : e.Performs op r) {other : SessionOp} {name : String} :
    e.Uses other name r ↔ other = op ∧ stringArg? r.args ["name"] = some name := by
  refine and_congr_left fun _ => ⟨h.unique, ?_⟩
  rintro rfl
  exact h

/-- A record of no operation that changes variables leaves the store as it is. -/
theorem change_of_other (h : ∀ op ∈ writing, ¬e.Performs op r) (s : Store) : e.change s r = s := by
  have hnone : ∀ op ∈ writing, ∀ name, ¬e.Uses op name r := fun op hop _ huses => h op hop huses.1
  simp only [writing, List.forall_mem_cons, List.not_mem_nil, false_implies, implies_true,
    and_true] at hnone
  obtain ⟨hsave, happend, hdelete⟩ := hnone
  funext name
  simp only [change, hsave, happend, hdelete, ↓reduceIte]

/-- An operation that follows the rule of the store changes it to what the rule says. -/
theorem Performs.change_eq (h : e.Performs op r) {output : Json}
    (hrule : StoreRule r.args s op output s') : e.change s r = s' := by
  funext other
  simp only [change, h.uses_iff]
  cases hrule with
  | saved hname =>
    rw [stringArg?_name_iff.2 hname, Function.update_apply]
    simp [eq_comm]
  | @appended name _ _ hname hold hnew =>
    rw [stringArg?_name_iff.2 hname, Function.update_apply]
    by_cases hother : other = name
    · subst hother
      simp [hold, appended?_eq_some_iff.2 hnew]
    · simp [hother, Ne.symm hother]
  | deleted hname =>
    rw [stringArg?_name_iff.2 hname, Function.update_apply]
    simp [eq_comm]
  | read | listed => simp

end Change

/-! ## One step -/

section Step

variable {e} {tools : Toolbox σ} {provider : Option (Provider σ)} {settings : CompletionSettings}

/-- A step over the built-in handlers changes the variables as its record changes the store, and if
it is one of an operation on variables, it follows the rule of that. -/
theorem store_of_step (hbuiltin : e.handlers = .builtin tools provider settings)
    {signal : Option (Signal σ)} {step : Step} {c : Call} {w : σ} {k : StepCase} {r : Record}
    {work : Workspace} {w' : σ} (h : StepRule e signal step c w k r work w')
    (hsorted : c.work.values.Sorted) :
    work.values.Sorted ∧ work.store = e.change c.work.store r ∧
      ∀ op ∈ onVariables, e.Performs op r →
        StoreRule r.args c.work.store op r.output work.store := by
  -- A step that is one of no operation on variables leaves them as they are.
  have hother : (∀ op ∈ onVariables, ¬e.Performs op r) → work.values = c.work.values →
      work.values.Sorted ∧ work.store = e.change c.work.store r ∧
        ∀ op ∈ onVariables, e.Performs op r →
          StoreRule r.args c.work.store op r.output work.store := by
    intro hnone hvalues
    have hstore : work.store = c.work.store := by
      funext name
      exact congrArg (Fields.get? name) hvalues
    rw [hvalues, change_of_other fun op hop => hnone op (writing_subset hop)]
    exact ⟨hsorted, hstore, fun op hop hperforms => absurd hperforms (hnone op hop)⟩
  cases hsuccess : r.success with
  | false =>
    have hwork : work = c.work := h.work_of_failure (e.atomic_of_builtin hbuiltin) hsuccess
    exact hother (fun op _ => not_performs_of_failure hsuccess op) (congrArg Workspace.values hwork)
  | true =>
    cases h with
    | noNode | badReference | unregistered | dropped | refused => cases hsuccess
    | menu hnode _ hmenu =>
      exact hother (fun op _ => by simp [performs_succeeded_iff hnode, hmenu]) rfl
    | @answered node args output _ _ _ _ hnode _ hid hget _ hended =>
      rw [hbuiltin] at hget
      obtain ⟨hhandler, rfl⟩ := Registry.isBuiltin_of_get? hget
      rcases hhandler.values_of_answer hended with ⟨op, hop, hon⟩ | ⟨hids, hvalues⟩
      · have hperforms : e.Performs op (c.succeeded args output) :=
          (performs_succeeded_iff hnode output).2 (hop ▸ hid)
        by_cases hvar : op ∈ onVariables
        · obtain ⟨hrule, hsorted'⟩ := rule_of_on hvar hsorted hon
          refine ⟨hsorted', (hperforms.change_eq hrule).symm, fun other _ hother => ?_⟩
          obtain rfl := hperforms.unique hother
          exact hrule
        · have hwork : work = c.work := by
            rw [← work_of_report hvar args c c.work, hon]
          refine hother (fun other hin hother => ?_) (congrArg Workspace.values hwork)
          exact hvar (hperforms.unique hother ▸ hin)
      · refine hother (fun op _ hop => hids op ?_) hvalues
        exact Option.some.inj (hid.symm.trans ((performs_succeeded_iff hnode output).1 hop))

/-- A step of a session calls an operation with arguments: there is a node of the operation at its
address, and its template has the arguments. -/
structure Calls (e : Engine σ) (op : SessionOp) (step : Step) (session : Session) (args : Json) :
    Prop where
  node : (e.space.resolve? (step.target.at_ session.nav.cursor)).bind (·.handler) = some op.id
  args : step.template.resolve session.state.log = .ok args

/-- A step that calls an operation records what that answers, and leaves what it leaves. -/
theorem runStep_of_calls (hbuiltin : e.handlers = .builtin tools provider settings)
    {op : SessionOp} {step : Step} {session : Session} {args : Json}
    (h : e.Calls op step session args) (signal : Option (Signal σ)) (moment : Moment) (w : σ) :
    let s := e.runStep signal moment step session w
    let c := seenBy moment step session
    (∃ output, (op.edit args c).on session.state.work = (.ok output, s.session.state.work) ∧
      s.record = c.succeeded args output) ∨
    ∃ err, (op.edit args c).on session.state.work = (.error err, s.session.state.work) ∧
      s.record = c.failed args .execution ("execution failed: " ++ err.message) := by
  intro s c
  obtain ⟨node, hnode, hid⟩ := Option.bind_eq_some_iff.1 h.node
  have hget : e.handlers.get? op.id = some op.handler :=
    hbuiltin ▸ Registry.get?_builtin_session op
  -- The operations do not wait, so their calls are never dropped.
  have hkept : ∀ s, signal = some s → ∀ dropped,
      (op.handler : Handler σ).interrupt args c w = some dropped → s.fired dropped.2 = false :=
    fun _ _ _ hdropped => by cases hdropped
  cases hdone : (op.edit args c).on session.state.work with
  | mk result work =>
  have hended : op.handler.invoke args c w = ⟨result, work, w⟩ := by
    have hinvoke : op.handler.invoke args c w =
        ⟨((op.edit args c).on session.state.work).1, ((op.edit args c).on session.state.work).2,
          w⟩ := rfl
    rw [hinvoke, hdone]
  cases result with
  | ok output =>
    obtain ⟨-, hrecord, hwork, -⟩ := (e.stepRule_iff signal moment).1
      (.answered (c := c) hnode h.args hid hget hkept hended)
    exact .inl ⟨output, by rw [hwork], hrecord.symm⟩
  | error err =>
    obtain ⟨-, hrecord, hwork, -⟩ := (e.stepRule_iff signal moment).1
      (.refused (c := c) hnode h.args hid hget hkept hended)
    exact .inr ⟨err, by rw [hwork], hrecord.symm⟩

end Step

end Engine

/-! ## All steps -/

/-- A log tells of the variables of a workspace: they are the store of the log, and each record of
an operation on variables followed the rule of the store in front of it. -/
structure Tells {σ : Type} (e : Engine σ) (log : List Record) (work : Workspace) : Prop where
  sorted : work.values.Sorted
  store_eq : work.store = e.store log
  rule : ∀ before r op, before ++ [r] <+: log → op ∈ onVariables → e.Performs op r →
    StoreRule r.args (e.store before) op r.output (e.store (before ++ [r]))

namespace Tells

variable {σ : Type} {e : Engine σ} {tools : Toolbox σ} {provider : Option (Provider σ)}
  {settings : CompletionSettings}

theorem new (e : Engine σ) : Tells e [] State.new.work where
  sorted := List.Pairwise.nil
  store_eq := rfl
  rule before r _ hprefix := by simp at hprefix

/-- A step keeps log and variables in agreement. -/
theorem of_step (hbuiltin : e.handlers = .builtin tools provider settings)
    {log : List Record} {signal : Option (Signal σ)} {step : Step} {c : Call} {w : σ}
    {k : StepCase} {r : Record} {work : Workspace} {w' : σ}
    (h : Tells e log c.work) (hstep : StepRule e signal step c w k r work w') :
    Tells e (log ++ [r]) work := by
  obtain ⟨hsorted, hstore, hrule⟩ := Engine.store_of_step hbuiltin hstep h.sorted
  have hstore' : work.store = e.store (log ++ [r]) := by
    rw [hstore, h.store_eq, Engine.store_concat]
  refine ⟨hsorted, hstore', fun before r' op hprefix hop hperforms => ?_⟩
  rcases List.prefix_concat_iff.1 hprefix with hlast | hearlier
  · obtain ⟨rfl, rfl⟩ : before = log ∧ r' = r := by simpa using hlast
    rw [← h.store_eq, ← hstore']
    exact hrule op hop hperforms
  · exact h.rule before r' op hearlier hop hperforms

/-- The log of every session that a shell passes tells of its variables. -/
theorem of_reached (hbuiltin : e.handlers = .builtin tools provider settings) {id : String}
    {session : Session} (h : e.Reached id session) :
    Tells e session.state.log session.state.work := by
  refine h.invariant (P := fun s => Tells e s.state.log s.state.work) (.new e) ?_ fun _ _ h => h
  intro signal moment step session w h
  rw [Engine.runStep_log]
  exact h.of_step (c := Engine.seenBy moment step session) hbuiltin
    (e.runStep_rule signal moment step session w)

end Tells

namespace Engine

/-- **Variables are a plain store.** The variables of a session are the store that its log tells of.
A step that calls an operation on variables succeeds if and only if the store has what the operation
needs, and then follows the rule of the store; all other steps leave the variables alone. -/
theorem variables_are_a_store {σ : Type} (e : Engine σ) {tools : Toolbox σ}
    {provider : Option (Provider σ)} {settings : CompletionSettings}
    (hbuiltin : e.handlers = .builtin tools provider settings) {id : String} {session : Session}
    (hreached : e.Reached id session) :
    let work := session.state.work
    let s := e.store session.state.log
    work.values.Sorted ∧ work.store = s ∧
    (∀ before r op, before ++ [r] <+: session.state.log → op ∈ onVariables → e.Performs op r →
      StoreRule r.args (e.store before) op r.output (e.store (before ++ [r]))) ∧
    ∀ (signal : Option (Signal σ)) (moment : Moment) (step : Step) (w : σ),
      let ran := e.runStep signal moment step session w
      ((∀ op ∈ writing, ¬e.Performs op ran.record) → ran.session.state.work.store = s) ∧
      ∀ (op : SessionOp) (args : Json), e.Calls op step session args →
        ran.record.args = args ∧ ran.session.state.work.agents = work.agents ∧
        (ran.record.success = true ↔ Usable args s op) ∧
        (ran.record.success = false → ran.session.state.work = work) ∧
        (ran.record.success = true → op ∈ onVariables →
          StoreRule args s op ran.record.output (e.store (session.state.log ++ [ran.record]))) := by
  intro work s
  have htells : Tells e session.state.log work := .of_reached hbuiltin hreached
  refine ⟨htells.sorted, htells.store_eq, htells.rule, ?_⟩
  intro signal moment step w ran
  have hran : Tells e ran.session.state.log ran.session.state.work :=
    .of_reached hbuiltin (hreached.step signal moment step w)
  have hstore : ran.session.state.work.store = e.store (session.state.log ++ [ran.record]) := by
    rw [hran.store_eq, runStep_log]
  refine ⟨fun hnone => by rw [hstore, store_concat, change_of_other hnone], ?_⟩
  intro op args hcalls
  have hagents := op.keeps_agents_edit args (seenBy moment step session) work
  -- What the operation needs is asked of the workspace, which is the store of the log.
  have husable : (∃ output, ((op.edit args (seenBy moment step session)).on work).1 = .ok output) ↔
      Usable args s op := by
    rw [exists_on_eq_ok_iff, htells.store_eq]
  rcases runStep_of_calls hbuiltin hcalls signal moment w with
    ⟨output, hon, hrecord⟩ | ⟨err, hon, hrecord⟩
  · have hsuccess : ran.record.success = true := congrArg Record.success hrecord
    have houtput : ran.record.output = output := congrArg Record.output hrecord
    rw [hon] at hagents husable
    refine ⟨congrArg Record.args hrecord, hagents, ?_, fun hfailed => ?_, fun _ hop => ?_⟩
    · exact iff_of_true hsuccess (husable.1 ⟨output, rfl⟩)
    · cases hsuccess.symm.trans hfailed
    · obtain ⟨hrule, -⟩ := rule_of_on hop htells.sorted hon
      rw [htells.store_eq, hstore] at hrule
      rwa [houtput]
  · have hfailed : ran.record.success = false := congrArg Record.success hrecord
    have hkept := op.atomic_edit args (seenBy moment step session) work err (congrArg Prod.fst hon)
    rw [hon] at hagents husable hkept
    refine ⟨congrArg Record.args hrecord, hagents, ?_, fun _ => hkept, fun hsuccess => ?_⟩
    · rw [hfailed, ← husable]
      simp
    · cases hsuccess.symm.trans hfailed

/-- A string that is saved under a name with blanks around it has the next value behind its end. -/
theorem append_behind_saved_string :
    let moment : Moment := ⟨.epoch, fun _ => ""⟩
    let save : Step := ⟨.absolute ⟨0, [1]⟩, [("name", .str " n "), ("value", .str "so ")]⟩
    let append : Step := ⟨.absolute ⟨0, [2]⟩, [("name", .str "n"), ("value", .bool true)]⟩
    let session := (office.runStep none moment save (office.newSession "s") ()).session
    let ran := office.runStep none moment append session ()
    session.state.work.store "n" = some (.str "so ") ∧ ran.record.success = true ∧
      StoreRule (.obj append.rawArgs) (office.store session.state.log) .appendToVar
        ran.record.output (office.store (session.state.log ++ [ran.record])) ∧
      office.store (session.state.log ++ [ran.record]) "n" = some (.str "so true") := by
  intro moment save append session ran
  have hbuiltin : office.handlers = .builtin [] none ⟨"m", defaultTemperature, none⟩ := rfl
  have hreached : office.Reached "s" session := .step (.line []) none moment save ()
  have hcalls : office.Calls .appendToVar append session (.obj append.rawArgs) :=
    ⟨by decide +kernel, by decide +kernel⟩
  have hsuccess : ran.record.success = true := by decide +kernel
  obtain ⟨-, hstore, -, hsteps⟩ := office.variables_are_a_store hbuiltin hreached
  obtain ⟨-, hoperations⟩ := hsteps none moment append ()
  obtain ⟨-, -, -, -, hrule⟩ := hoperations _ _ hcalls
  refine ⟨?_, hsuccess, hrule hsuccess (by decide), by decide +kernel⟩
  rw [hstore]
  decide +kernel

end Engine

end ActionTree
