import ActionTree.Proofs.Line.Grammar

/-!
# Two spellings of a chain

Steps can be chained as jumps with arrows between them, or behind the word `chain`, where each step
may have the word `jump` or not. A line of jumps with `chain` in front of it asks for the same
steps, and in a line of `chain` the word `jump` may be added to any steps without it and taken away
from any steps with it.

* `parseStep_of_jump`, `parseStep_of_bare`: a step with and without the word `jump`.
* `Respelled`: a step in another spelling.
* `Line.chain_spellings_agree`: the spellings of a line parse to the same steps.
-/

namespace ActionTree

open Text

/-- A step of a chain in another spelling: the word `jump` is put in front of a step that lacks it,
or taken away from one that has it. The blanks in front of the step may change with it. -/
inductive Respelled : List Char → List Char → Prop
  | same (p : List Char) : Respelled p p
  | added {ws ws' j gap body : List Char} (hws : Blank ws)
      (hlacks : lower (splitWord body).1 ≠ Line.jumpWord) (hws' : Blank ws')
      (hj : lower j = Line.jumpWord) (hgap : Gap gap) :
      Respelled (ws ++ body) (ws' ++ (j ++ (gap ++ body)))
  | removed {ws ws' j gap body : List Char} (hws : Blank ws) (hj : lower j = Line.jumpWord)
      (hgap : Gap gap) (hws' : Blank ws') :
      Respelled (ws ++ (j ++ (gap ++ body))) (ws' ++ body)

namespace Line

variable {ws j gap body : List Char} {s : Step} {n : Nat}

/-- Behind the word `jump` a step is its address and its payload. -/
theorem parseStep_of_jump {jumpNeeded : Bool} (hws : Blank ws) (hj : lower j = jumpWord)
    (hgap : Gap gap) :
    parseStep jumpNeeded (ws ++ (j ++ (gap ++ body))) n = .ok s ↔
      parseTarget (splitWord body).1 (splitWord body).2 n = .ok s := by
  obtain ⟨hne, hsolid⟩ := solid_of_keyword hj (by decide) rfl
  rw [parseStep_eq_ok_iff, splitWord_append_left hws, splitWord_append hne hsolid
    (hgap.endsWord body), trim_append_left hgap.blank, splitWord_trim]
  simp only [hj, ne_eq, not_true_eq_false, true_and, false_and, and_false, or_false]

/-- Without the word a step of a chain is its address and its payload. -/
theorem parseStep_of_bare (hws : Blank ws) (hlacks : lower (splitWord body).1 ≠ jumpWord) :
    parseStep false (ws ++ body) n = .ok s ↔
      parseTarget (splitWord body).1 (splitWord body).2 n = .ok s := by
  rw [parseStep_eq_ok_iff, splitWord_append_left hws]
  simp only [hlacks, ne_eq, not_false_eq_true, true_and, false_and, false_or]

theorem lower_ne_of_parseTarget {payload address : List Char}
    (h : parseTarget address payload n = .ok s) : lower address ≠ jumpWord := by
  obtain ⟨a, m, ha, -, -⟩ := parseTarget_eq_ok_iff.1 h
  exact (Address.parseChars?_eq_some_iff.1 ha).lower_ne

/-- A step in another spelling is the same step. -/
theorem parseStep_of_respelled {p q : List Char} (h : Respelled p q)
    (hp : parseStep false p n = .ok s) : parseStep false q n = .ok s := by
  cases h with
  | same => exact hp
  | added hws hlacks hws' hj hgap =>
    rw [parseStep_of_bare hws hlacks] at hp
    exact (parseStep_of_jump hws' hj hgap).2 hp
  | removed hws hj hgap hws' =>
    rw [parseStep_of_jump hws hj hgap] at hp
    exact (parseStep_of_bare hws' (lower_ne_of_parseTarget hp)).2 hp

/-- A jump is a step of a chain too. -/
theorem parseStep_false_of_true {p : List Char} (h : parseStep true p n = .ok s) :
    parseStep false p n = .ok s := by
  rw [parseStep_eq_ok_iff] at h ⊢
  rcases h with h | ⟨hneeded, -⟩
  · exact .inl h
  · cases hneeded

theorem parseChain_false_of_true {text : List Char} {ss : List Step}
    (h : parseChain true text = .ok ss) : parseChain false text = .ok ss := by
  rw [parseChain_eq_ok_iff] at h ⊢
  obtain ⟨ps, hps, hss⟩ := h
  exact ⟨ps, hps, hss.imp fun _ _ => parseStep_false_of_true⟩

/-- Steps in other spellings are the same steps. -/
theorem parseChain_of_respelled {text : List Char} {ps qs : List (List Char)} {ss : List Step}
    (hps : pieces? text = some ps) (h : List.Forall₂ Respelled ps qs)
    (htext : parseChain false text = .ok ss) : parseChain false (joinArrows qs) = .ok ss := by
  obtain ⟨ps', hps', hss⟩ := parseChain_eq_ok_iff.1 htext
  obtain rfl : ps = ps' := Option.some.inj (hps.symm.trans hps')
  have hqs : List.Forall₂ (StepText false) qs ss := by
    clear hps hps' htext
    induction h generalizing ss with
    | nil =>
      cases hss
      exact .nil
    | cons hpq _ ih =>
      cases hss with
      | cons hp hrest =>
        have hq := stepText_of_parseStep (parseStep_of_respelled hpq hp)
        exact .cons hq (ih hrest)
  have hne : qs ≠ [] := by
    rintro rfl
    cases h
    exact (joinArrows_of_pieces? hps).1 rfl
  exact parseChain_eq_ok_iff_texts.2 ⟨qs, hne, rfl, hqs⟩

/-- Any step of a chain can be respelled: the word can be put in front of it if it lacks the word,
and taken away if it has it. -/
theorem exists_respelled {p : List Char} (hp : parseStep false p n = .ok s) :
    (lower (splitWord p).1 ≠ jumpWord → Respelled p ("jump ".toList ++ p)) ∧
      (lower (splitWord p).1 = jumpWord →
        ∃ q, Respelled p q ∧ lower (splitWord q).1 ≠ jumpWord) := by
  constructor
  · intro hlacks
    have hgap : Gap [' '] := ⟨List.cons_ne_nil _ _, List.forall_mem_singleton.2 (by decide)⟩
    show Respelled ([] ++ p) ([] ++ (jumpWord ++ ([' '] ++ p)))
    exact .added blank_nil hlacks blank_nil rfl hgap
  · intro hword
    cases stepText_of_parseStep hp with
    | @jump ws j gap address p ws' a m hws hj hgap ha hpayload hws' =>
      refine ⟨[] ++ (address ++ (p ++ ws')), .removed hws hj hgap blank_nil, ?_⟩
      rw [parseStep_of_jump hws hj hgap] at hp
      exact lower_ne_of_parseTarget hp
    | bare _ hws ha hpayload hws' =>
      rw [splitWord_target hws ha hpayload hws'] at hword
      exact absurd hword ha.lower_ne

theorem steps_ofJumps (ss : List Step) : (ofJumps ss).steps = ss := by
  unfold ofJumps
  split <;> rfl

theorem ofJumps_of_two_le {ss : List Step} (h : 2 ≤ ss.length) : ofJumps ss = .chain ss := by
  unfold ofJumps
  split
  · simp at h
  · rfl

/-- The word `chain` and a blank may stand in front of any steps. -/
theorem headed_chainWord (text : List Char) : Headed false "chain ".toList text :=
  .chain blank_nil (w := chainWord) rfl (List.forall_mem_singleton.2 (by decide)) nofun

/-- **The spellings of a chain.** An accepted line whose first word is `jump` is, with `chain` in
front of it, the chain of the same steps. In an accepted line whose first word is `chain` each step
may have the word `jump` or not. -/
theorem chain_spellings_agree :
    (∀ line c, lower (splitWord line.toList).1 = jumpWord → parse line = .ok c →
      parse ("chain " ++ line) = .ok (.chain c.steps) ∧
      (2 ≤ c.steps.length → parse ("chain " ++ line) = .ok c)) ∧
    (∀ line c, lower (splitWord line.toList).1 = chainWord → parse line = .ok c →
      ∃ head text ps, Headed false head text ∧ line.toList = head ++ text ∧
        pieces? text = some ps ∧ ps.length = c.steps.length ∧
        ∀ p ∈ ps, (lower (splitWord p).1 ≠ jumpWord → Respelled p ("jump ".toList ++ p)) ∧
          (lower (splitWord p).1 = jumpWord →
            ∃ q, Respelled p q ∧ lower (splitWord q).1 ≠ jumpWord)) ∧
    ∀ head text ps qs c, Headed false head text → pieces? text = some ps →
      List.Forall₂ Respelled ps qs → parse (String.ofList (head ++ text)) = .ok c →
      parse (String.ofList (head ++ joinArrows qs)) = .ok c := by
  refine ⟨fun line c hword hparse => ?_, fun line c hword hparse => ?_,
    fun head text ps qs c hhead hps hqs hparse => ?_⟩
  · rw [parse, parseChars_of_jumpWord hword, map_eq_ok_iff] at hparse
    obtain ⟨ss, hss, rfl⟩ := hparse
    have hchain : parse ("chain " ++ line) = .ok (.chain ss) := by
      rw [parse, String.toList_append, parseChars_of_headed (headed_chainWord _),
        commandOf_eq_ok_iff]
      exact ⟨ss, parseChain_false_of_true hss, rfl⟩
    rw [steps_ofJumps]
    exact ⟨hchain, fun htwo => ofJumps_of_two_le htwo ▸ hchain⟩
  · obtain ⟨head, text, hhead, hline⟩ := exists_headed hword
    rw [parse, hline, parseChars_of_headed hhead] at hparse
    obtain ⟨ss, hss, rfl⟩ := commandOf_eq_ok_iff.1 hparse
    obtain ⟨ps, hps, hsteps⟩ := parseChain_eq_ok_iff.1 hss
    refine ⟨head, text, ps, hhead, hline, hps, hsteps.length_eq, fun p hp => ?_⟩
    obtain ⟨s, hs⟩ := exists_parseStep_of_mem hsteps p hp
    exact exists_respelled hs
  · rw [parse, String.toList_ofList] at hparse ⊢
    rw [parseChars_of_headed hhead] at hparse
    obtain ⟨ss, hss, rfl⟩ := commandOf_eq_ok_iff.1 hparse
    -- The text is not empty, so the head fits in front of another text too.
    have hne : text ≠ [] := fun hnil => trim_ne_nil_of_parseChain hss (by rw [hnil, trim_nil])
    rw [parseChars_of_headed (hhead.replace hne _)]
    exact commandOf_eq_ok_iff.2 ⟨ss, parseChain_of_respelled hps hqs hss, rfl⟩

/-- Two jumps are a chain, and behind `chain` the first of them can lose its word; an arrow in a
payload stays. -/
theorem chain_of_jumps_without_word :
    let jumps := "JUMP 0.1 \x7b\"a\": \"->\"\x7d -> jump 0"
    let short := "chain 0.1 \x7b\"a\": \"->\"\x7d -> jump 0"
    let c : Command := .chain [⟨.absolute ⟨0, [1]⟩, [("a", .str "->")]⟩, ⟨.absolute .root, []⟩]
    parse jumps = .ok c ∧ parse ("chain " ++ jumps) = .ok c ∧ parse short = .ok c := by
  intro jumps short c
  have hjumps : parse jumps = .ok c := by decide +kernel
  have hchain : parse ("chain " ++ jumps) = .ok c :=
    (chain_spellings_agree.1 jumps c (by decide +kernel) hjumps).2 (by decide)
  have hpieces : pieces? jumps.toList =
      some ["JUMP 0.1 \x7b\"a\": \"->\"\x7d ".toList, " jump 0".toList] := by decide +kernel
  have hgap : Gap [' '] := ⟨List.cons_ne_nil _ _, List.forall_mem_singleton.2 (by decide)⟩
  have hremoved : Respelled "JUMP 0.1 \x7b\"a\": \"->\"\x7d ".toList
      "0.1 \x7b\"a\": \"->\"\x7d ".toList := by
    show Respelled ([] ++ ("JUMP".toList ++ ([' '] ++ "0.1 \x7b\"a\": \"->\"\x7d ".toList)))
      ([] ++ "0.1 \x7b\"a\": \"->\"\x7d ".toList)
    exact .removed blank_nil (by decide +kernel) hgap blank_nil
  have hline : "chain " ++ jumps = String.ofList ("chain ".toList ++ jumps.toList) := by
    rw [String.ofList_append, String.ofList_toList, String.ofList_toList]
  have hshort : String.ofList ("chain ".toList ++ joinArrows
      ["0.1 \x7b\"a\": \"->\"\x7d ".toList, " jump 0".toList]) = short := by decide +kernel
  rw [hline] at hchain
  have hrespelled := chain_spellings_agree.2.2 _ _ _ _ c (headed_chainWord jumps.toList) hpieces
    (.cons hremoved (.cons (.same _) .nil)) hchain
  rw [hshort] at hrespelled
  rw [hline]
  exact ⟨hjumps, hchain, hrespelled⟩

end Line

end ActionTree
