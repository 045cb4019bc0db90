import ActionTree.Proofs.Engine.Composition
import ActionTree.Proofs.Space.Catalog
import Mathlib.Data.List.Chain

/-!
# The path of a shell

The path of a session starts at the root of the tree. A jump or a shortcut adds its target to the
end if its step was started, the target is a node and the cursor is not there yet; `back` removes
the end unless it is the start; nothing else changes the path. So the path only ever has nodes on
it, and a shell always has a menu to show.

* `Navigator.stack_moveTo`, `Navigator.stack_back`: the two changes.
* `Navigator.Sound`: a path of nodes, no two of which in a row are the same.
* `Engine.execute_nav`, `Engine.answer_nav`: what commands and lines do to a path.
* `Engine.path_of_shell`: the whole account, for any lines and the line behind them.
-/

namespace ActionTree

namespace Navigator

variable (n : Navigator) (a : Address)

@[simp] theorem stack_new (start : Address) : (new start).stack = [start] := rfl

@[simp] theorem cursor_new (start : Address) : (new start).cursor = start := rfl

theorem head?_stack : n.stack.head? = some n.start := rfl

/-- The path ends at the cursor. -/
theorem getLast?_stack : n.stack.getLast? = some n.cursor := by
  obtain ⟨start, trail⟩ := n
  cases trail with
  | nil => rfl
  | cons a trail =>
    rw [stack, List.reverse_cons, ← List.cons_append]
    exact List.getLast?_concat

theorem cursor_mem_stack : n.cursor ∈ n.stack := List.mem_of_getLast? n.getLast?_stack

@[simp] theorem start_moveTo : (n.moveTo a).start = n.start := by
  unfold moveTo
  split <;> rfl

@[simp] theorem start_back : n.back.start = n.start := rfl

/-- A path grows by an address other than the cursor. -/
theorem stack_moveTo : (n.moveTo a).stack = if n.cursor = a then n.stack else n.stack ++ [a] := by
  unfold moveTo
  split
  · rfl
  · simp [stack]

@[simp] theorem cursor_moveTo : (n.moveTo a).cursor = a := by
  unfold moveTo
  split
  · assumption
  · rfl

/-- A path shrinks by the cursor, but never to nothing. -/
theorem stack_back : n.back.stack = if n.stack.length = 1 then n.stack else n.stack.dropLast := by
  obtain ⟨start, trail⟩ := n
  cases trail with
  | nil => rfl
  | cons a trail => simp [stack, back, List.dropLast_cons_of_ne_nil]

/-- Every address of a path is one of a node, and no two in a row are the same. -/
structure Sound (s : Space) (n : Navigator) : Prop where
  exists_node : ∀ a ∈ n.stack, ∃ node, s.resolve? a = some node
  isChain : n.stack.IsChain (· ≠ ·)

variable {n a} {s : Space}

theorem sound_new {start : Address} {node : Node} (h : s.resolve? start = some node) :
    Sound s (new start) := by
  refine ⟨fun a ha => ?_, List.isChain_singleton _⟩
  rw [stack_new, List.mem_singleton] at ha
  exact ⟨node, ha ▸ h⟩

theorem Sound.moveTo (h : Sound s n) {node : Node} (ha : s.resolve? a = some node) :
    Sound s (n.moveTo a) := by
  constructor
  · intro b hb
    rw [stack_moveTo] at hb
    split at hb
    · exact h.exists_node b hb
    · rcases List.mem_append.1 hb with hb | hb
      · exact h.exists_node b hb
      · rw [List.mem_singleton.1 hb]
        exact ⟨node, ha⟩
  · rw [stack_moveTo]
    split
    · exact h.isChain
    · rename_i hne
      -- The address differs from the cursor, which is the end of the path.
      refine h.isChain.append (List.isChain_singleton _) fun x hx y hy => ?_
      rw [getLast?_stack, Option.mem_some_iff] at hx
      rw [List.head?_cons, Option.mem_some_iff] at hy
      rwa [← hx, ← hy]

theorem Sound.back (h : Sound s n) : Sound s n.back := by
  have hsub : n.back.stack <+: n.stack := by
    rw [stack_back]
    split
    · exact List.prefix_rfl
    · exact List.dropLast_prefix _
  exact ⟨fun a ha => h.exists_node a (hsub.subset ha), List.IsChain.prefix h.isChain hsub⟩

end Navigator

/-- A command that moves the cursor has one step. -/
theorem Command.exists_steps_eq {c : Command} (h : c.movesCursor = true) :
    ∃ step, c.steps = [step] := by
  cases c with
  | jump step => exact ⟨step, rfl⟩
  | shortcut step => exact ⟨step, rfl⟩
  | chain steps => cases h

namespace Engine

variable {σ : Type} (e : Engine σ) (signal : Option (Signal σ)) (moment : Moment)

/-! ## Commands -/

/-- A path behind a single step: it grows by an address that has a node. -/
theorem pathAfter_of_movesCursor {c : Command} (h : c.movesCursor = true)
    (resolved : Option Address) (nav : Navigator) :
    pathAfter c resolved nav = (resolved.map nav.moveTo).getD nav := by
  cases resolved with
  | none => rfl
  | some a => simp [pathAfter, h]

/-- A step resolves to its address if that has a node, however it ends. -/
theorem runStep_resolved (step : Step) (session : Session) (w : σ) :
    (e.runStep signal moment step session w).resolved =
      if (e.space.resolve? (step.target.at_ session.nav.cursor)).isSome then
        some (step.target.at_ session.nav.cursor)
      else none := by
  have hresolved : (e.runStep signal moment step session w).resolved =
      (e.attemptIn signal moment step session w).resolved := rfl
  rw [hresolved]
  cases hnode : e.space.resolve? (step.target.at_ session.nav.cursor) with
  | none =>
    rw [e.attemptIn_of_noNode signal moment hnode]
    rfl
  | some node =>
    cases hargs : step.template.resolve session.state.log with
    | error r =>
      rw [e.attemptIn_of_badReference signal moment hnode hargs]
      rfl
    | ok args =>
      cases hid : node.handler with
      | none =>
        rw [e.attemptIn_of_menu signal moment hnode hargs hid]
        rfl
      | some id =>
        rw [e.attemptIn_of_handler signal moment hnode hargs hid]
        rfl

theorem execute_nav (c : Command) (session : Session) (w : σ) :
    (e.execute signal moment c session w).session.nav =
      pathAfter c (e.runSteps signal moment c.steps session w).resolved session.nav := by
  rw [← e.runSteps_nav signal moment c.steps session w]
  rfl

theorem execute_nav_chain (steps : List Step) (session : Session) (w : σ) :
    (e.execute signal moment (.chain steps) session w).session.nav = session.nav := by
  rw [execute_nav, pathAfter_chain]

/-- A single step that is started moves to its target if that has a node. -/
theorem execute_nav_single {c : Command} {step : Step} (hmoves : c.movesCursor = true)
    (hsteps : c.steps = [step]) (session : Session) (w : σ) :
    (e.execute signal moment c session w).session.nav =
      if (poll signal w).1 = false ∧
          (e.space.resolve? (step.target.at_ session.nav.cursor)).isSome = true then
        session.nav.moveTo (step.target.at_ session.nav.cursor)
      else session.nav := by
  rw [execute_nav, pathAfter_of_movesCursor hmoves, hsteps, runSteps_single]
  cases (poll signal w).1 with
  | true => rfl
  | false =>
    simp only [Bool.false_eq_true, ↓reduceIte, runStep_resolved, true_and]
    split <;> rfl

theorem execute_sound {c : Command} {session : Session} {w : σ}
    (h : session.nav.Sound e.space) :
    (e.execute signal moment c session w).session.nav.Sound e.space := by
  cases hmoves : c.movesCursor with
  | false =>
    cases c with
    | chain steps => rwa [execute_nav_chain]
    | jump | shortcut => cases hmoves
  | true =>
    obtain ⟨step, hsteps⟩ := Command.exists_steps_eq hmoves
    rw [e.execute_nav_single signal moment hmoves hsteps]
    split
    · rename_i hstarted
      obtain ⟨node, hnode⟩ := Option.isSome_iff_exists.1 hstarted.2
      exact h.moveTo hnode
    · exact h

theorem start_execute (c : Command) (session : Session) (w : σ) :
    (e.execute signal moment c session w).session.nav.start = session.nav.start := by
  rw [execute_nav]
  unfold pathAfter
  split
  · split
    · rw [Navigator.start_moveTo]
    · rfl
  · rfl

/-! ## Lines -/

@[simp] theorem obey_nav (d : Directive) (session : Session) :
    (e.obey d session).2.nav = if d = .back then session.nav.back else session.nav := by
  cases d <;> rfl

/-- What every command keeps of a path, and `back` too, every line keeps. -/
theorem answer_nav {P : Navigator → Prop} (i : Input σ) {session : Session}
    (hback : P session.nav.back)
    (hcommand : ∀ c, P (e.execute i.signal i.moment c session i.world).session.nav)
    (h : P session.nav) : P (e.answer i session).session.nav := by
  rcases line_cases i.line with ⟨d, hd⟩ | ⟨hd, ⟨err, hline⟩ | ⟨c, hline⟩⟩
  · rw [(e.answer_directive session hd).2, obey_nav]
    split
    · exact hback
    · exact h
  · rwa [(e.answer_rejected session hd hline).2]
  · rw [(e.answer_command session hd hline).2]
    exact hcommand c

theorem transcript_nav {P : Navigator → Prop} {id : String} (hnew : P (e.newSession id).nav)
    (hback : ∀ nav, P nav → P nav.back)
    (hcommand : ∀ signal moment c session w, P session.nav →
      P (e.execute signal moment c session w).session.nav) (inputs : List (Input σ)) :
    P (e.transcript id inputs).session.nav :=
  e.transcript_invariant (P := fun s => P s.nav) hnew
    (fun i _ h => e.answer_nav i (hback _ h) (fun c => hcommand _ _ c _ _ h) h) inputs

/-- The path of a shell starts at the root. -/
theorem start_transcript (id : String) (inputs : List (Input σ)) :
    (e.transcript id inputs).session.nav.start = (e.newSession id).nav.start :=
  e.transcript_nav (P := fun nav => nav.start = (e.newSession id).nav.start) rfl
    (fun _ h => h) (fun _ _ _ _ _ h => (e.start_execute _ _ _ _ _).trans h) inputs

section Root

variable {e}

theorem newSession_nav {root : Node} (h : e.space.root? = some root) (id : String) :
    (e.newSession id).nav = .new root.address := by
  simp only [newSession, h]
  rfl

/-- The path of a shell over a tree with a root is sound. -/
theorem transcript_sound {root : Node} (hroot : e.space.root? = some root)
    (hfound : e.space.resolve? root.address = some root) (id : String) (inputs : List (Input σ)) :
    (e.transcript id inputs).session.nav.Sound e.space :=
  e.transcript_nav (newSession_nav hroot id ▸ Navigator.sound_new hfound)
    (fun _ h => h.back) (fun _ _ _ _ _ h => e.execute_sound _ _ h) inputs

end Root

/-- A shell whose path is sound shows the menu of a node. -/
theorem menu?_cursor {session : Session} (h : session.nav.Sound e.space) :
    e.space.menu? session.nav.cursor = some (e.currentMenu session) := by
  obtain ⟨node, hnode⟩ := h.exists_node _ session.nav.cursor_mem_stack
  obtain ⟨m, hm⟩ := Space.exists_menu?_of_resolve? hnode
  rw [currentMenu, hm]
  rfl

/-- What a directive does to a path. -/
theorem stack_answer_directive {i : Input σ} {d : Directive}
    (hd : Directive.ofLine? i.line = some d) (session : Session) :
    (e.answer i session).session.nav.stack =
      if d = .back ∧ session.nav.stack.length ≠ 1 then session.nav.stack.dropLast
      else session.nav.stack := by
  rw [(e.answer_directive session hd).2, obey_nav]
  by_cases hback : d = .back
  · by_cases hstart : session.nav.stack.length = 1 <;> simp [hback, hstart, Navigator.stack_back]
  · simp [hback]

/-- What a single step does to a path. -/
theorem stack_execute_single {c : Command} {step : Step} (hmoves : c.movesCursor = true)
    (hsteps : c.steps = [step]) (session : Session) (w : σ) :
    let x := e.execute signal moment c session w
    let a := step.target.at_ session.nav.cursor
    (x.outcome.steps = [] ↔ (poll signal w).1 = true) ∧
      x.session.nav.stack =
        if x.outcome.steps ≠ [] ∧ (e.space.resolve? a).isSome = true ∧ a ≠ session.nav.cursor then
          session.nav.stack ++ [a]
        else session.nav.stack := by
  intro x a
  have hrecords : x.outcome.steps = (e.runSteps signal moment [step] session w).records :=
    hsteps ▸ rfl
  have hpoll : x.outcome.steps = [] ↔ (poll signal w).1 = true := by
    rw [hrecords, runSteps_single]
    split <;> simp [*]
  refine ⟨hpoll, ?_⟩
  rw [e.execute_nav_single signal moment hmoves hsteps]
  -- The signal is only looked at in front of the step, so it has run or nothing has happened.
  cases hfired : (poll signal w).1 with
  | true => simp [hpoll.2 hfired]
  | false =>
    have hstarted : x.outcome.steps ≠ [] := fun hnone => by simp [hpoll.1 hnone] at hfired
    by_cases hnode : (e.space.resolve? a).isSome = true
    · rw [if_pos ⟨rfl, hnode⟩, Navigator.stack_moveTo]
      by_cases hcursor : session.nav.cursor = a
      · rw [if_pos hcursor, if_neg fun h => h.2.2 hcursor.symm]
      · rw [if_neg hcursor, if_pos ⟨hstarted, hnode, Ne.symm hcursor⟩]
    · rw [if_neg fun h => hnode h.2, if_neg fun h => hnode h.2.1]

/-- **The path of a shell.** It starts at the first node of the catalog with an address of one
segment, and has only nodes on it, no two in a row the same. A jump or a shortcut may add the node
that it leads to, `back` removes the end unless it is the start, and no other line changes it. -/
theorem path_of_shell {t : TreeSettings} (ht : t.space = .ok e.space) (id : String)
    (inputs : List (Input σ)) :
    let s := (e.transcript id inputs).session
    let stack := s.nav.stack
    (∃ ns root, List.Forall₂ (fun c n => c.node = .ok n) t.catalog ns ∧
      ns.find? (·.address.depth = 1) = some root ∧ stack.head? = some root.address) ∧
    (∀ a ∈ stack, ∃ node, e.space.resolve? a = some node) ∧
    e.space.menu? s.nav.cursor = some (e.currentMenu s) ∧
    stack.IsChain (· ≠ ·) ∧ stack.getLast? = some s.nav.cursor ∧
    ∀ i : Input σ,
      let x := e.answer i s
      (∀ d, Directive.ofLine? i.line = some d →
        x.session.nav.stack = if d = .back ∧ stack.length ≠ 1 then stack.dropLast else stack) ∧
      (∀ err, Directive.ofLine? i.line = none → Line.parse i.line = .error err →
        x.session.nav.stack = stack) ∧
      (∀ c, Line.parse i.line = .ok c →
        ∃ o, x.response = .outcome o ∧ o.cursor = x.session.nav.cursor ∧
          (∀ steps, c = .chain steps → x.session.nav.stack = stack) ∧
          ∀ step, c = .jump step ∨ c = .shortcut step →
            let a := step.target.at_ s.nav.cursor
            (o.steps = [] ↔ (poll i.signal i.world).1 = true) ∧
              x.session.nav.stack =
                if o.steps ≠ [] ∧ (e.space.resolve? a).isSome = true ∧ a ≠ s.nav.cursor then
                  stack ++ [a]
                else stack) ∧
      ∀ (a : Address) (j : Input σ), x.session.nav.stack = stack ++ [a] →
        Directive.ofLine? j.line = some .back →
          (e.answer j x.session).session.nav.stack = stack := by
  intro s stack
  obtain ⟨ns, root, hns, hfirst, hroot, hfound⟩ := TreeSettings.exists_root ht
  have hsound : s.nav.Sound e.space := transcript_sound hroot hfound id inputs
  have hstart : s.nav.start = root.address := by
    rw [e.start_transcript, newSession_nav hroot]
    rfl
  refine ⟨⟨ns, root, hns, hfirst, hstart ▸ s.nav.head?_stack⟩, hsound.exists_node,
    e.menu?_cursor hsound, hsound.isChain, s.nav.getLast?_stack, fun i => ?_⟩
  intro x
  refine ⟨fun d hd => e.stack_answer_directive hd s, fun err hd hline => ?_, fun c hline => ?_,
    fun a j hpushed hback => ?_⟩
  · rw [(e.answer_rejected s hd hline).2]
  · obtain ⟨hresponse, hsession⟩ := e.answer_command s (Line.ofLine?_eq_none_of_parse hline) hline
    simp only [x, hsession]
    refine ⟨_, hresponse, rfl, ?_, ?_⟩
    · rintro steps rfl
      rw [execute_nav_chain]
    · rintro step (rfl | rfl)
      · exact e.stack_execute_single i.signal i.moment rfl rfl s i.world
      · exact e.stack_execute_single i.signal i.moment rfl rfl s i.world
  · have hlong : (stack ++ [a]).length ≠ 1 := by simp [stack, Navigator.stack]
    rw [e.stack_answer_directive hback, hpushed, if_pos ⟨rfl, hlong⟩, List.dropLast_concat]

/-- A shortcut to no node leaves the path as it is, and going back takes back a jump. -/
theorem back_behind_jump :
    let entry (address label : String) (handler : Option String) : CatalogEntry :=
      ⟨address, label, none, handler, []⟩
    let t : TreeSettings := ⟨"", [entry "0" "Start" none, entry "0.1" "Echo" (some "echo"),
      entry "0.2" "Lost" (some "nobody")]⟩
    let before := (sample.transcript "s" [.plain "7"]).session
    let after := (sample.answer (.plain "jump 0.2") before).session
    t.space = .ok sample.space ∧ before.nav.stack = [.root] ∧
      after.nav.stack = [.root, ⟨0, [2]⟩] ∧
      (sample.answer (.plain "back") after).session.nav.stack = [.root] := by
  have hbefore : (sample.transcript "s" [.plain "7"]).session.nav.stack = [.root] := by
    decide +kernel
  have hafter : (sample.answer (.plain "jump 0.2")
      (sample.transcript "s" [.plain "7"]).session).session.nav.stack = [.root, ⟨0, [2]⟩] := by
    decide +kernel
  have hback : Directive.ofLine? "back" = some .back := by decide
  intro entry t before after
  have ht : t.space = .ok sample.space := by decide +kernel
  obtain ⟨-, -, -, -, -, hlines⟩ := sample.path_of_shell ht "s" [.plain "7"]
  obtain ⟨-, -, -, hrestored⟩ := hlines (.plain "jump 0.2")
  refine ⟨ht, hbefore, hafter, ?_⟩
  rw [← hbefore]
  exact hrestored ⟨0, [2]⟩ (.plain "back") (by rw [hafter, hbefore]; rfl) hback

end Engine

end ActionTree
