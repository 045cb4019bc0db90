import ActionTree.Proofs.Line.Grammar

/-!
# Where a rejected line goes wrong

A line of steps is rejected because its brackets and quotes are out of balance, which is found out
before any step is read, or because of its first bad step, whose number the error says. The line cut
in front of the arrow of that step is accepted, and the line cut behind the step is rejected with
the same error.

* `ParseError.step?`, `step?_of_parseStep`: the step that an error is about.
* `parseSteps_eq_error`: steps are rejected with the error of the first step that is.
* `PointsAt`: what the number in an error says about the line.
* `Line.error_points_at_first_bad_step`: every error of a line of steps points at a piece.
-/

namespace ActionTree

open Text

/-- The step that an error is about. -/
def ParseError.step? : ParseError → Option Nat
  | .missingAddress n => some n
  | .invalidAddress n _ => some n
  | .expectedJump n _ => some n
  | .emptyStep n => some n
  | .invalidArguments n _ => some n
  | .argumentsNotObject n => some n
  | .empty => none
  | .unknownCommand _ => none
  | .unbalanced => none

namespace Line

variable {jumpNeeded : Bool} {head text : List Char} {ps : List (List Char)} {n : Nat}
  {err : ParseError}

/-! ## Errors of steps -/

theorem step?_of_parsePayload {cs : List Char} (h : parsePayload cs n = .error err) :
    err.step? = some n := by
  unfold parsePayload at h
  simp only at h
  split at h
  · cases h
  · split at h <;> cases h <;> rfl

theorem step?_of_parseTarget {address payload : List Char}
    (h : parseTarget address payload n = .error err) : err.step? = some n := by
  unfold parseTarget at h
  split at h
  · cases h
    rfl
  · split at h
    · cases h
      rfl
    · rename_i a ha
      cases hpayload : parsePayload payload n with
      | error err' =>
        rw [hpayload] at h
        cases h
        exact step?_of_parsePayload hpayload
      | ok m =>
        rw [hpayload] at h
        cases h

/-- An error of a step has the number of the step. -/
theorem step?_of_parseStep {p : List Char} (h : parseStep jumpNeeded p n = .error err) :
    err.step? = some n := by
  unfold parseStep at h
  simp only at h
  split at h
  · cases h
    rfl
  · split at h
    · exact step?_of_parseTarget h
    · split at h
      · cases h
        rfl
      · exact step?_of_parseTarget h

theorem parseStep_of_blank {p : List Char} (h : Blank p) (n : Nat) :
    parseStep jumpNeeded p n = .error (.emptyStep n) := by
  unfold parseStep
  rw [trim_of_blank h]
  rfl

theorem parseSteps_cons_of_error {p : List Char} (h : parseStep jumpNeeded p n = .error err)
    (ps : List (List Char)) : parseSteps jumpNeeded n (p :: ps) = .error err := by
  rw [parseSteps, h]
  rfl

theorem parseSteps_cons_of_ok {p : List Char} {s : Step} (h : parseStep jumpNeeded p n = .ok s)
    (ps : List (List Char)) :
    parseSteps jumpNeeded n (p :: ps) = (parseSteps jumpNeeded (n + 1) ps).map (s :: ·) := by
  rw [parseSteps, h]
  cases parseSteps jumpNeeded (n + 1) ps <;> rfl

/-- Steps are rejected with the error of the first of them that is: those in front of it are
accepted, and nothing behind it counts. -/
theorem parseSteps_eq_error (h : parseSteps jumpNeeded n ps = .error err) :
    ∃ k < ps.length, err.step? = some (n + k) ∧
      (∃ ss, parseSteps jumpNeeded n (ps.take k) = .ok ss) ∧
      parseSteps jumpNeeded n (ps.take (k + 1)) = .error err := by
  induction ps generalizing n with
  | nil => cases h
  | cons p ps ih =>
    cases hp : parseStep jumpNeeded p n with
    | error err' =>
      obtain rfl : err' = err := Except.error.inj ((parseSteps_cons_of_error hp ps).symm.trans h)
      exact ⟨0, Nat.succ_pos _, step?_of_parseStep hp, ⟨[], rfl⟩, parseSteps_cons_of_error hp _⟩
    | ok s =>
      rw [parseSteps_cons_of_ok hp, map_eq_error_iff] at h
      obtain ⟨k, hk, hstep, ⟨ss, hss⟩, herr⟩ := ih h
      refine ⟨k + 1, Nat.succ_lt_succ hk, by rw [hstep]; congr 1; omega, ⟨s :: ss, ?_⟩, ?_⟩
      · rw [List.take_succ_cons, parseSteps_cons_of_ok hp, hss]
        rfl
      · rw [List.take_succ_cons, parseSteps_cons_of_ok hp, herr]
        rfl

/-! ## Errors of lines -/

/-- The steps of a chain without any text are missed; any other text is rejected as its steps. -/
theorem commandOf_eq_error_iff :
    commandOf jumpNeeded text = .error err ↔
      (jumpNeeded = false ∧ Blank text ∧ err = .missingAddress 1) ∨
        ((jumpNeeded = false → ¬Blank text) ∧ parseChain jumpNeeded text = .error err) := by
  unfold commandOf
  cases jumpNeeded with
  | true => simp only [↓reduceIte, map_eq_error_iff, reduceCtorEq, false_and, false_implies,
      true_and, false_or]
  | false =>
    rw [if_neg Bool.false_ne_true]
    by_cases hblank : Blank text
    · rw [if_pos (trim_eq_nil_iff.2 hblank)]
      simp only [hblank, Except.error.injEq, true_and, true_implies, not_true_eq_false, false_and,
        or_false, eq_comm]
    · rw [if_neg (mt trim_eq_nil_iff.1 hblank), map_eq_error_iff]
      simp only [hblank, false_and, and_false, implies_true, not_false_eq_true, true_and, false_or]

/-- A line that is cut behind the first pieces of its steps. -/
def cutBehind (head : List Char) (ps : List (List Char)) (k : Nat) : String :=
  String.ofList (head ++ joinArrows (ps.take k))

/-- Cut behind some of its pieces, a line is read as these pieces. -/
theorem parse_cutBehind (h : Headed jumpNeeded head text) (hps : pieces? text = some ps) {k : Nat}
    (hk : 0 < k) :
    parse (cutBehind head ps k) = commandOf jumpNeeded (joinArrows (ps.take k)) ∧
      parseChain jumpNeeded (joinArrows (ps.take k)) = parseSteps jumpNeeded 1 (ps.take k) := by
  constructor
  · rw [parse, cutBehind, String.toList_ofList, parseChars_of_headed (h.take hps hk)]
  · rw [parseChain, pieces?_take hps hk]

/-- The first of some pieces is blank. -/
def BlankFirst (ps : List (List Char)) : Prop := ∃ p, ps.head? = some p ∧ Blank p

/-- What the number in an error of a line says: there is a piece with this number, the line in front
of its arrow is accepted, and the line up to its end is rejected with the error. The exception is a
chain whose first piece is blank: an arrow behind the piece makes it an empty step, and without an
arrow the address of the step is missing. -/
structure PointsAt (jumpNeeded : Bool) (head : List Char) (ps : List (List Char))
    (err : ParseError) (n : Nat) : Prop where
  step : err.step? = some n
  pos : 1 ≤ n
  le : n ≤ ps.length
  begins : head ++ joinArrows (ps.take n) <+: head ++ joinArrows ps
  arrow : 2 ≤ n → head ++ (joinArrows (ps.take (n - 1)) ++ ['-', '>']) <+: head ++ joinArrows ps
  before : 2 ≤ n → ∃ c, parse (cutBehind head ps (n - 1)) = .ok c
  upTo : (jumpNeeded = false → ¬BlankFirst ps) → parse (cutBehind head ps n) = .error err
  blank : jumpNeeded = false → BlankFirst ps →
    n = 1 ∧ (err = if 2 ≤ ps.length then .emptyStep 1 else .missingAddress 1) ∧
      parse (cutBehind head ps n) = .error (.missingAddress 1)

theorem blank_of_joinArrows (hps : ps ≠ []) (h : Blank (joinArrows ps)) : BlankFirst ps := by
  cases ps with
  | nil => exact absurd rfl hps
  | cons p ps =>
    obtain ⟨more, hmore⟩ := exists_joinArrows_eq p ps
    rw [hmore] at h
    exact ⟨p, rfl, fun c hc => h c (List.mem_append_left more hc)⟩

/-- A chain whose first piece is blank has no first step. -/
theorem pointsAt_of_blankFirst {p : List Char} (h : Headed false head text)
    (hps : pieces? text = some (p :: ps)) (hp : Blank p)
    (herr : commandOf false text = .error err) : PointsAt false head (p :: ps) err 1 := by
  have hfirst : BlankFirst (p :: ps) := ⟨p, rfl, hp⟩
  have hjoin := (joinArrows_of_pieces? hps).2
  have hcut : parse (cutBehind head (p :: ps) 1) = .error (.missingAddress 1) := by
    rw [(parse_cutBehind h hps Nat.one_pos).1, commandOf_eq_error_iff]
    exact .inl ⟨rfl, hp, rfl⟩
  have herr : err = if 2 ≤ (p :: ps).length then .emptyStep 1 else .missingAddress 1 := by
    by_cases hnil : ps = []
    · subst hnil
      rw [← hjoin, commandOf_eq_error_iff] at herr
      rcases herr with ⟨-, -, rfl⟩ | ⟨hnot, -⟩
      · rfl
      · exact absurd hp (hnot rfl)
    · -- The arrow behind the piece is no blank.
      have hnot : ¬Blank text := fun hblank => by
        rw [← hjoin, joinArrows_cons hnil] at hblank
        exact absurd (hblank '-' (by simp)) (by decide)
      have hlength : 2 ≤ (p :: ps).length := by
        have := List.length_pos_iff.2 hnil
        simp only [List.length_cons]
        omega
      rcases commandOf_eq_error_iff.1 herr with ⟨-, hblank, -⟩ | ⟨-, hchain⟩
      · exact absurd hblank hnot
      · rw [parseChain, hps] at hchain
        rw [if_pos hlength]
        have hempty : parseSteps false 1 (p :: ps) = .error (.emptyStep 1) :=
          parseSteps_cons_of_error (parseStep_of_blank hp 1) ps
        exact Except.error.inj (hchain.symm.trans hempty)
  refine ⟨?_, le_rfl, by simp, ?_, fun htwo => absurd htwo (by decide),
    fun htwo => absurd htwo (by decide), fun hnot => absurd hfirst (hnot rfl),
    fun _ _ => ⟨rfl, herr, hcut⟩⟩
  · rw [herr]
    split <;> rfl
  · exact (List.prefix_append_right_inj head).2 (joinArrows_take_begins _ Nat.one_pos).1

/-- An error of steps points at one of them. -/
theorem exists_pointsAt (h : Headed jumpNeeded head text) (hps : pieces? text = some ps)
    (hfirst : jumpNeeded = false → ¬BlankFirst ps)
    (herr : parseSteps jumpNeeded 1 ps = .error err) : ∃ n, PointsAt jumpNeeded head ps err n := by
  obtain ⟨k, hk, hstep, ⟨ss, hss⟩, hcut⟩ := parseSteps_eq_error herr
  obtain ⟨hline, hsteps⟩ := parse_cutBehind h hps (Nat.succ_pos k)
  have hbegins := joinArrows_take_begins ps (Nat.succ_pos k)
  refine ⟨k + 1, by rw [hstep, Nat.add_comm], Nat.succ_pos k, hk,
    (List.prefix_append_right_inj head).2 hbegins.1, fun htwo => ?_, fun htwo => ?_, fun _ => ?_,
    fun hneeded hblank => absurd hblank (hfirst hneeded)⟩
  · have hpos : 0 < k := by omega
    exact (List.prefix_append_right_inj head).2 ((joinArrows_take_begins ps hpos).2 hk)
  · have hpos : 0 < k := by omega
    obtain ⟨hline, hsteps⟩ := parse_cutBehind h hps hpos
    rw [Nat.add_sub_cancel, hline]
    exact ⟨_, commandOf_eq_ok_iff.2 ⟨ss, hsteps.trans hss, rfl⟩⟩
  · rw [hline, commandOf_eq_error_iff]
    refine .inr ⟨fun hneeded hblank => ?_, hsteps.trans hcut⟩
    -- A text that is not blank in its first piece is not blank.
    have htake : ps.take (k + 1) ≠ [] := by
      rw [ne_eq, List.take_eq_nil_iff]
      rintro (hzero | rfl)
      · cases hzero
      · cases hk
    obtain ⟨p, hp, hpblank⟩ := blank_of_joinArrows htake hblank
    rw [List.head?_take, if_neg (Nat.succ_ne_zero k)] at hp
    exact hfirst hneeded ⟨p, hp, hpblank⟩

/-- A rejected line is out of balance, or its error points at a piece. -/
theorem unbalanced_or_pointsAt (h : Headed jumpNeeded head text)
    (herr : commandOf jumpNeeded text = .error err) :
    (err = .unbalanced ∧ Unbalanced text) ∨
      ∃ ps n, pieces? text = some ps ∧ PointsAt jumpNeeded head ps err n := by
  cases hps : pieces? text with
  | none =>
    left
    have hunbalanced := pieces?_eq_none_iff.1 hps
    -- A blank text is balanced, so the error is that of a chain.
    rcases commandOf_eq_error_iff.1 herr with ⟨-, hblank, -⟩ | ⟨-, hchain⟩
    · rw [pieces?_of_passes (passes_of_blank hblank 0)] at hps
      cases hps
    · rw [parseChain, hps] at hchain
      cases hchain
      exact ⟨rfl, hunbalanced⟩
  | some ps =>
    right
    by_cases hfirst : jumpNeeded = false ∧ BlankFirst ps
    · obtain ⟨rfl, p, hp, hblank⟩ := hfirst
      obtain ⟨ps, rfl⟩ := List.head?_eq_some_iff.1 hp
      exact ⟨_, 1, rfl, pointsAt_of_blankFirst h hps hblank herr⟩
    · rw [not_and] at hfirst
      rcases commandOf_eq_error_iff.1 herr with ⟨hneeded, hblank, -⟩ | ⟨-, hchain⟩
      · obtain ⟨hne, hjoin⟩ := joinArrows_of_pieces? hps
        exact absurd (blank_of_joinArrows hne (hjoin ▸ hblank)) (hfirst hneeded)
      · rw [parseChain, hps] at hchain
        obtain ⟨n, hn⟩ := exists_pointsAt h hps hfirst hchain
        exact ⟨ps, n, rfl, hn⟩

/-- Each piece of an accepted line is a step. -/
theorem exists_stepText_of_commandOf {c : Command} (hc : commandOf jumpNeeded text = .ok c)
    (hps : pieces? text = some ps) : ∀ p ∈ ps, ∃ s, StepText jumpNeeded p s := by
  intro p hp
  obtain ⟨ss, hss, -⟩ := commandOf_eq_ok_iff.1 hc
  obtain ⟨qs, hqs, hsteps⟩ := parseChain_eq_ok_iff.1 hss
  obtain rfl : ps = qs := Option.some.inj (hps.symm.trans hqs)
  obtain ⟨s, hs⟩ := exists_parseStep_of_mem hsteps p hp
  exact ⟨s, stepText_of_parseStep hs⟩

/-- **Errors point at the first bad step.** A line whose first word is `jump` or `chain` is a head
and the text of its steps. If it is rejected, then its text is out of balance, and this is the
error; or the error points at a piece of the text. If any piece is no step, the line is rejected. -/
theorem error_points_at_first_bad_step (line : String)
    (hword : lower (splitWord line.toList).1 = jumpWord ∨
      lower (splitWord line.toList).1 = chainWord) :
    (∃ jumpNeeded head text, Headed jumpNeeded head text ∧ line.toList = head ++ text) ∧
    ∀ jumpNeeded head text, Headed jumpNeeded head text → line.toList = head ++ text →
      (∀ err, parse line = .error err →
        (err = .unbalanced ∧ Unbalanced text) ∨
          ∃ ps n, pieces? text = some ps ∧ PointsAt jumpNeeded head ps err n) ∧
      ∀ ps, pieces? text = some ps → ∀ p ∈ ps, (∀ s, ¬StepText jumpNeeded p s) →
        ∃ err, parse line = .error err := by
  constructor
  · rcases hword with hword | hword
    · exact ⟨true, [], line.toList, .jumps hword, rfl⟩
    · exact ⟨false, exists_headed hword⟩
  intro jumpNeeded head text hhead hline
  have hparse : parse line = commandOf jumpNeeded text := by
    rw [parse, hline, parseChars_of_headed hhead]
  rw [hparse]
  refine ⟨fun err herr => unbalanced_or_pointsAt hhead herr, fun ps hps p hp hbad => ?_⟩
  cases hcommand : commandOf jumpNeeded text with
  | error err => exact ⟨err, rfl⟩
  | ok c =>
    obtain ⟨s, hs⟩ := exists_stepText_of_commandOf hcommand hps p hp
    exact absurd hs (hbad s)

/-- A second step without a good address is pointed at; the third, which has no address at all, is
not read. -/
theorem bad_address_in_second_step :
    let err := ParseError.invalidAddress 2 "0.x"
    parse "CHAIN 0 -> 0.x -> jump" = .error err ∧
      PointsAt false "CHAIN ".toList ["0 ".toList, " 0.x ".toList, " jump".toList] err 2 := by
  intro err
  have hparse : parse "CHAIN 0 -> 0.x -> jump" = .error err := by rfl
  have hhead : Headed false "CHAIN ".toList "0 -> 0.x -> jump".toList :=
    .chain blank_nil (w := "CHAIN".toList) (by decide +kernel)
      (List.forall_mem_singleton.2 (by decide)) fun hnil => absurd hnil (List.cons_ne_nil _ _)
  have hpieces : pieces? "0 -> 0.x -> jump".toList =
      some ["0 ".toList, " 0.x ".toList, " jump".toList] := by decide +kernel
  have hpoints := (error_points_at_first_bad_step "CHAIN 0 -> 0.x -> jump"
    (.inr (by decide +kernel))).2 _ _ _ hhead (by decide +kernel)
  rcases hpoints.1 err hparse with ⟨hunbalanced, -⟩ | ⟨ps, n, hps, hn⟩
  · exact absurd hunbalanced (by decide)
  · obtain rfl := Option.some.inj (hpieces.symm.trans hps)
    obtain rfl : 2 = n := Option.some.inj hn.step
    exact ⟨hparse, hn⟩

end Line

end ActionTree
