import ActionTree.Proofs.Engine.Navigation
import ActionTree.Proofs.Line.Grammar

/-!
# Menus and shortcuts

A menu lists the children of the cursor under their last segments. A line that is a number goes to
the child of the cursor with that last segment. So the numbers of a menu are those with which a
shortcut finds a node, each of them leads to the address listed with it, and a shell gets from the
root to every node below it by the segments of its address, one at a time.

* `Input.Picks`: a line that is a number and whose step is started.
* `Engine.mem_options_iff`: the options of a menu are the children of the cursor.
* `Engine.answer_picks`: what such a line does.
* `Engine.cursor_of_segments`: the segments of an address as lines.
* `Engine.menus_agree_with_shortcuts`: all of them together, for every run of a shell.
-/

namespace ActionTree

/-- The input is a line of a number in decimal, with nothing or any object behind it, and its step
is started: the signal has not fired before. -/
structure Input.Picks {σ : Type} (i : Input σ) (n : UInt32) : Prop where
  line : ∃ ds p m, DigitRun ds n ∧ PayloadText p m ∧ Text.trim i.line.toList = ds ++ p
  started : (Engine.poll i.signal i.world).1 = false

theorem Input.Picks.exists_parse {σ : Type} {i : Input σ} {n : UInt32} (h : i.Picks n) :
    ∃ m, Line.parse i.line = .ok (.shortcut ⟨.relative n, m⟩) := by
  obtain ⟨ds, p, m, hds, hp, htext⟩ := h.line
  exact ⟨m, Line.parseChars_of_lineText (htext ▸ .shortcut hds hp)⟩

/-- Only a step without a node leaves a record that its address is not found. -/
theorem StepRule.kind_eq_addressNotFound_iff {σ : Type} {e : Engine σ} {signal : Option (Signal σ)}
    {step : Step} {c : Call} {w : σ} {k : StepCase} {r : Record} {work : Workspace} {w' : σ}
    (h : StepRule e signal step c w k r work w') :
    r.kind = some .addressNotFound ↔ e.space.resolve? c.address = none := by
  cases h with
  | noNode hnode => simp [Call.failed, hnode]
  | badReference hnode =>
    rename_i r _
    cases r <;> simp [Call.failed, ReferenceError.kind, hnode]
  | menu hnode => simp [Call.succeeded, hnode]
  | answered hnode => simp [Call.succeeded, hnode]
  | unregistered hnode => simp [Call.failed, hnode]
  | dropped hnode => simp [Call.failed, hnode]
  | refused hnode => simp [Call.failed, hnode]

namespace Engine

variable {σ : Type} {e : Engine σ} {ns : List Node} {session : Session}

/-! ## Options -/

/-- The options of a menu are the children of the cursor. -/
theorem currentMenu_options (h : session.nav.Sound e.space) :
    (e.currentMenu session).options =
      (e.space.children session.nav.cursor).map MenuOption.ofNode := by
  obtain ⟨node, hnode⟩ := h.exists_node _ session.nav.cursor_mem_stack
  rw [currentMenu, Space.menu?, hnode]
  rfl

theorem mem_options_iff (hns : Admitted ns) (hspace : e.space = .ofNodes ns)
    (h : session.nav.Sound e.space) {option : MenuOption} :
    option ∈ (e.currentMenu session).options ↔
      ∃ node ∈ ns, node.address = session.nav.cursor.child option.number ∧
        option = .ofNode node := by
  rw [currentMenu_options h, hspace, Space.children_ofNodes hns, List.mem_map]
  constructor
  · rintro ⟨node, hnode, rfl⟩
    obtain ⟨hmem, hparent⟩ := Space.mem_childrenIn.1 hnode
    exact ⟨node, hmem, Address.parent?_eq_some_iff.1 hparent, rfl⟩
  · rintro ⟨node, hmem, haddress, hoption⟩
    refine ⟨node, Space.mem_childrenIn.2 ⟨hmem, ?_⟩, hoption.symm⟩
    rw [haddress, Address.parent?_child]

/-- An option is at the child of the cursor with its number. -/
theorem address_of_mem_options (hns : Admitted ns) (hspace : e.space = .ofNodes ns)
    (h : session.nav.Sound e.space) {option : MenuOption}
    (hoption : option ∈ (e.currentMenu session).options) :
    option.address = session.nav.cursor.child option.number := by
  obtain ⟨node, -, haddress, hnode⟩ := (mem_options_iff hns hspace h).1 hoption
  rw [← haddress, hnode]
  rfl

/-- The numbers of a menu are those of the children of the cursor that are nodes. -/
theorem exists_option_iff (hns : Admitted ns) (hspace : e.space = .ofNodes ns)
    (h : session.nav.Sound e.space) {n : UInt32} :
    (∃ option ∈ (e.currentMenu session).options, option.number = n) ↔
      (e.space.resolve? (session.nav.cursor.child n)).isSome = true := by
  rw [hspace, Space.isSome_resolve?_ofNodes_iff]
  constructor
  · rintro ⟨option, hoption, rfl⟩
    obtain ⟨node, hmem, haddress, -⟩ := (mem_options_iff hns hspace h).1 hoption
    exact ⟨node, hmem, haddress⟩
  · rintro ⟨node, hmem, haddress⟩
    have hnumber : (MenuOption.ofNode node).number = n := by
      rw [MenuOption.ofNode, haddress, Address.last_child]
    exact ⟨.ofNode node,
      (mem_options_iff hns hspace h).2 ⟨node, hmem, by rw [hnumber, haddress], rfl⟩, hnumber⟩

/-- No two options of a menu have the same number. -/
theorem nodup_numbers (hns : Admitted ns) (hspace : e.space = .ofNodes ns)
    (h : session.nav.Sound e.space) :
    ((e.currentMenu session).options.map (·.number)).Nodup := by
  -- The addresses of the options are distinct, and each is determined by the number.
  refine List.Nodup.of_map session.nav.cursor.child ?_
  have haddresses : ((e.currentMenu session).options.map (·.number)).map session.nav.cursor.child =
      (Space.childrenIn ns session.nav.cursor).map (·.address) := by
    rw [currentMenu_options h, hspace, Space.children_ofNodes hns, List.map_map, List.map_map]
    refine List.map_congr_left fun node hnode => ?_
    exact (Address.parent?_eq_some_iff.1 (Space.mem_childrenIn.1 hnode).2).symm
  rw [haddresses]
  exact hns.nodup.sublist (List.filter_sublist.map _)

/-! ## Shortcuts -/

/-- A shortcut that is started leaves one record, at the child of the cursor, and moves there if
that is a node. -/
theorem answer_picks {i : Input σ} {n : UInt32} (h : i.Picks n) (session : Session) :
    let x := e.answer i session
    let a := session.nav.cursor.child n
    ∃ o r, x.response = .outcome o ∧ o.steps = [r] ∧ r.address = a ∧ r.Coherent ∧
      (r.kind = some .addressNotFound ↔ e.space.resolve? a = none) ∧
      x.session.nav = if (e.space.resolve? a).isSome = true then session.nav.moveTo a
        else session.nav := by
  intro x a
  obtain ⟨m, hline⟩ := h.exists_parse
  obtain ⟨hresponse, hsession⟩ :=
    e.answer_command session (Line.ofLine?_eq_none_of_parse hline) hline
  let step : Step := ⟨.relative n, m⟩
  have hrule := e.runStep_rule i.signal i.moment step session (poll i.signal i.world).2
  have hrecords : (e.execute i.signal i.moment (.shortcut step) session i.world).outcome.steps =
      [(e.runStep i.signal i.moment step session (poll i.signal i.world).2).record] := by
    change (e.runSteps i.signal i.moment [step] session i.world).records = _
    rw [runSteps_single, if_neg (by simp [h.started])]
  refine ⟨_, _, hresponse, hrecords, hrule.address_eq, hrule.coherent,
    hrule.kind_eq_addressNotFound_iff, ?_⟩
  have hsteps : (Command.shortcut step).steps = [step] := rfl
  simp only [x, hsession]
  rw [e.execute_nav_single i.signal i.moment rfl hsteps, h.started]
  simp only [true_and]
  rfl

/-- From the root a shell gets to a node by the segments of its address, one at a time. -/
theorem cursor_of_segments (hns : Admitted ns) (hspace : e.space = .ofNodes ns) {root : Node}
    (hroot : e.space.root? = some root) (hdepth : root.address.depth = 1) (id : String)
    {path : List UInt32} {node : Node} (hnode : node ∈ ns)
    (haddress : node.address = ⟨root.address.top, path⟩) {inputs : List (Input σ)}
    (hinputs : List.Forall₂ Input.Picks inputs path) :
    (e.transcript id inputs).session.nav.cursor = ⟨root.address.top, path⟩ := by
  induction path using List.reverseRecOn generalizing node inputs with
  | nil =>
    obtain rfl := List.forall₂_nil_right_iff.1 hinputs
    rw [transcript_nil, newSession_nav hroot, Navigator.cursor_new]
    have hbelow : root.address.below = [] := by simpa [Address.depth] using hdepth
    exact congrArg (Address.mk _) hbelow
  | append_singleton path n ih =>
    -- The parent is a node too, and the lines before the last one lead to it.
    have hchild : node.address = Address.child ⟨root.address.top, path⟩ n := haddress
    obtain ⟨parent, hmem, hparent⟩ := hns.exists_parent_of_mem hnode
      (p := ⟨root.address.top, path⟩) (by rw [hchild, Address.parent?_child])
    have hcursor := ih hmem hparent (List.forall₂_take_append inputs path [n] hinputs)
    obtain ⟨last, _, hlast, hrest, hdrop⟩ :=
      List.forall₂_cons_right_iff.1 (List.forall₂_drop_append inputs path [n] hinputs)
    obtain rfl := List.forall₂_nil_right_iff.1 hrest
    obtain ⟨_, _, -, -, -, -, -, hnav⟩ :=
      answer_picks (e := e) hlast (e.transcript id (inputs.take path.length)).session
    have hfound : (e.space.resolve? (Address.child ⟨root.address.top, path⟩ n)).isSome = true :=
      hspace ▸ (Space.isSome_resolve?_ofNodes_iff ns).2 ⟨node, hnode, hchild⟩
    rw [← List.take_append_drop path.length inputs, hdrop, transcript_concat, goOn_session, hnav,
      hcursor, if_pos hfound, Navigator.cursor_moveTo]
    rfl

/-- **Menus and shortcuts agree.** The options of a menu have different numbers. A line that is the
number of an option runs its step at the address of the option, any other number finds no node and
leaves the path, and each node below the root is reached by the segments of its address. -/
theorem menus_agree_with_shortcuts {attempts : List Node}
    (hspace : e.space = attempts.foldl Space.attempt .empty) (hnodes : e.space.nodes ≠ [])
    (id : String) :
    (∀ inputs : List (Input σ),
      let s := (e.transcript id inputs).session
      let options := (e.currentMenu s).options
      (options.map (·.number)).Nodup ∧
        ∀ (n : UInt32) (i : Input σ), i.Picks n →
          let x := e.answer i s
          ∃ o r, x.response = .outcome o ∧ o.steps = [r] ∧
            (∀ option ∈ options, option.number = n →
              r.address = option.address ∧ r.kind ≠ some .addressNotFound ∧
                x.session.nav.cursor = option.address) ∧
            ((∀ option ∈ options, option.number ≠ n) →
              r.address = s.nav.cursor.child n ∧ r.success = false ∧
                r.kind = some .addressNotFound ∧ x.session.nav.stack = s.nav.stack)) ∧
    (∀ n, DigitRun (Address.digits n.toNat) n) ∧
    ∀ root, e.space.root? = some root → ∀ node ∈ e.space.nodes,
      root.address.segments <+: node.address.segments → ∀ inputs : List (Input σ),
        List.Forall₂ Input.Picks inputs node.address.segments.tail →
          (e.transcript id inputs).session.nav.cursor = node.address := by
  obtain ⟨hns, hgrown⟩ := Space.foldl_attempt attempts
  -- All look-ups go by the nodes that were added, so the attempts are not needed any more.
  generalize Space.empty.added attempts = ns at hns hgrown
  replace hspace : e.space = .ofNodes ns := hspace.trans hgrown
  have hne : ns ≠ [] := by rwa [hspace, Space.nodes_ofNodes hns] at hnodes
  obtain ⟨first, rest, rfl⟩ := List.exists_cons_of_ne_nil hne
  have hroot : e.space.root? = some first := by
    rw [hspace, Space.root?_ofNodes hns, List.head?_cons]
  have hfound : e.space.resolve? first.address = some first := by
    rw [hspace, Space.resolve?_ofNodes_eq_some_iff hns]
    exact ⟨List.mem_cons_self, rfl⟩
  refine ⟨fun inputs => ?_, Address.digitRun_digits, ?_⟩
  · intro s options
    have hsound : s.nav.Sound e.space := transcript_sound hroot hfound id inputs
    refine ⟨nodup_numbers hns hspace hsound, fun n i hi => ?_⟩
    obtain ⟨o, r, hresponse, hsteps, haddress, hcoherent, hkind, hnav⟩ := answer_picks (e := e) hi s
    have hlisted := exists_option_iff (n := n) hns hspace hsound
    refine ⟨o, r, hresponse, hsteps, fun option hoption hnumber => ?_, fun hnone => ?_⟩
    · have hat : option.address = s.nav.cursor.child n :=
        hnumber ▸ address_of_mem_options hns hspace hsound hoption
      have hnode := hlisted.1 ⟨option, hoption, hnumber⟩
      rw [if_pos hnode] at hnav
      refine ⟨haddress.trans hat.symm, fun hmissing => ?_, ?_⟩
      · rw [hkind.1 hmissing] at hnode
        cases hnode
      · rw [hnav, Navigator.cursor_moveTo, hat]
    -- A node at this address would be an option with the number.
    · have hmissing : ¬ (e.space.resolve? (s.nav.cursor.child n)).isSome = true := fun hnode => by
        obtain ⟨option, hoption, hnumber⟩ := hlisted.2 hnode
        exact hnone option hoption hnumber
      have hkind := hkind.2 (by simpa using hmissing)
      refine ⟨haddress, ?_, hkind, by rw [hnav, if_neg hmissing]⟩
      rw [← Bool.not_eq_true, hcoherent.success_iff_kind, hkind]
      exact Option.some_ne_none _
  · intro root hfirst node hnode hprefix inputs hinputs
    obtain rfl : first = root := Option.some.inj (hroot.symm.trans hfirst)
    have htop : node.address = ⟨first.address.top, node.address.below⟩ := by
      obtain ⟨_, hsegments⟩ := hprefix
      rw [Address.segments, List.cons_append] at hsegments
      rw [(List.cons.inj hsegments).1]
    rw [hspace, Space.nodes_ofNodes hns] at hnode
    rw [htop]
    exact cursor_of_segments hns hspace hroot hns.head_depth id hnode htop hinputs

/-- The number of an option, with an object behind it, leads to its address, though its step fails;
the line is also the way from the root to that node. -/
theorem option_reached_by_number :
    let attempts : List Node := [.plain .root "Start" none, .plain ⟨0, [1]⟩ "Echo" (some "echo"),
      .plain ⟨0, [2]⟩ "Lost" (some "nobody")]
    let line : Input Unit := .plain "2 \x7b\x7d"
    let lost : MenuOption := ⟨2, ⟨0, [2]⟩, "Lost", some "nobody"⟩
    sample.space = attempts.foldl Space.attempt .empty ∧ sample.space.nodes ≠ [] ∧
      line.Picks 2 ∧ lost ∈ (sample.currentMenu (sample.transcript "s" []).session).options ∧
      (∃ o r, (sample.answer line (sample.transcript "s" []).session).response = .outcome o ∧
        o.steps = [r] ∧ r.address = ⟨0, [2]⟩) ∧
      (sample.transcript "s" [line]).session.nav.cursor = ⟨0, [2]⟩ := by
  intro attempts line lost
  have hspace : sample.space = attempts.foldl Space.attempt .empty := rfl
  have hnodes : sample.space.nodes ≠ [] := List.cons_ne_nil _ _
  have hgap : Text.Gap [' '] := ⟨List.cons_ne_nil _ _, List.forall_mem_singleton.2 (by decide)⟩
  have hobject : PayloadText ([' '] ++ ['{', '}']) [] := .object hgap rfl
  have htext : Text.trim line.line.toList = ['2'] ++ ([' '] ++ ['{', '}']) := by decide +kernel
  have hline : line.Picks 2 := ⟨⟨['2'], _, [], Address.digitRun_digits 2, hobject, htext⟩, rfl⟩
  have hlost : lost ∈ (sample.currentMenu (sample.transcript "s" []).session).options :=
    .tail _ (.head _)
  obtain ⟨hmenus, -, hreached⟩ := menus_agree_with_shortcuts hspace hnodes "s"
  obtain ⟨o, r, hresponse, hsteps, hoption, -⟩ := (hmenus []).2 2 line hline
  refine ⟨hspace, hnodes, hline, hlost, ⟨o, r, hresponse, hsteps, (hoption lost hlost rfl).1⟩, ?_⟩
  exact hreached (.plain .root "Start" none) rfl (.plain ⟨0, [2]⟩ "Lost" (some "nobody"))
    (.tail _ (.tail _ (.head _))) ⟨[2], rfl⟩ [line] (.cons hline .nil)

end Engine

end ActionTree
