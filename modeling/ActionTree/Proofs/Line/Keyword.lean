import ActionTree.Proofs.Line.Accepted
import ActionTree.Proofs.Line.Balance

/-!
# Lines that start with a keyword

A line of jumps and a line that starts with `chain` are read alike: behind what stands in front of
its steps, the text of the steps is split at its arrows and each piece is read. The blanks around a
piece change nothing, not even an error, so a line can be cut behind any of its pieces, and other
steps can be written in the place of its own.

* `parseChain_trim`: blanks around the text of steps change nothing.
* `Headed`: what stands in front of the text of steps, and when it does.
* `parseChars_of_headed`: such a line is what the text of its steps is read as.
* `Headed.take`: a line that is cut behind some pieces has the same head.
-/

namespace ActionTree

open Text

/-! ## Joined pieces -/

theorem joinArrows_cons {ps : List (List Char)} (h : ps ≠ []) (p : List Char) :
    joinArrows (p :: ps) = p ++ '-' :: '>' :: joinArrows ps := by
  cases ps with
  | nil => exact absurd rfl h
  | cons q ps => rfl

theorem joinArrows_append {ps qs : List (List Char)} (hps : ps ≠ []) (hqs : qs ≠ []) :
    joinArrows (ps ++ qs) = joinArrows ps ++ '-' :: '>' :: joinArrows qs := by
  induction ps with
  | nil => exact absurd rfl hps
  | cons p ps ih =>
    by_cases hnil : ps = []
    · rw [hnil]
      exact joinArrows_cons hqs p
    · rw [List.cons_append, joinArrows_cons (by simp [hnil]), ih hnil, joinArrows_cons hnil,
        List.append_assoc]
      rfl

/-- The first pieces of a text are its beginning, and an arrow is behind them if more follow. -/
theorem joinArrows_take_begins (ps : List (List Char)) {k : Nat} (hk : 0 < k) :
    joinArrows (ps.take k) <+: joinArrows ps ∧
      (k < ps.length → joinArrows (ps.take k) ++ ['-', '>'] <+: joinArrows ps) := by
  by_cases hlt : k < ps.length
  · have htake : ps.take k ≠ [] := by
      rw [ne_eq, List.take_eq_nil_iff, not_or]
      exact ⟨Nat.ne_of_gt hk, List.ne_nil_of_length_pos (by omega)⟩
    have hdrop : ps.drop k ≠ [] := by
      rw [ne_eq, List.drop_eq_nil_iff]
      omega
    have hjoin := joinArrows_append htake hdrop
    rw [List.take_append_drop] at hjoin
    rw [hjoin]
    refine ⟨List.prefix_append _ _, fun _ => ⟨joinArrows (ps.drop k), ?_⟩⟩
    simp
  · rw [List.take_of_length_le (by omega)]
    exact ⟨List.prefix_rfl, fun h => absurd h hlt⟩

theorem exists_joinArrows_eq (p : List Char) (ps : List (List Char)) :
    ∃ more, joinArrows (p :: ps) = p ++ more := by
  by_cases hnil : ps = []
  · exact ⟨[], by rw [hnil, List.append_nil, joinArrows]⟩
  · exact ⟨_, joinArrows_cons hnil p⟩

namespace Line

variable {jumpNeeded : Bool} {cs ws head text : List Char} {ps : List (List Char)}

/-! ## Blanks around steps -/

theorem parseStep_congr {p q : List Char} (h : trim p = trim q) (n : Nat) :
    parseStep jumpNeeded p n = parseStep jumpNeeded q n := by
  unfold parseStep
  rw [h]

theorem parseSteps_congr {qs : List (List Char)}
    (h : List.Forall₂ (fun p q => trim p = trim q) ps qs) (n : Nat) :
    parseSteps jumpNeeded n ps = parseSteps jumpNeeded n qs := by
  induction h generalizing n with
  | nil => rfl
  | cons hp _ ih => rw [parseSteps, parseSteps, parseStep_congr hp, ih]

theorem parseChain_append_blank (hws : Blank ws) (cs : List Char) :
    parseChain jumpNeeded (cs ++ ws) = parseChain jumpNeeded cs := by
  unfold parseChain
  cases hps : pieces? cs with
  | none => rw [pieces?_append_blank_eq_none hws hps]
  | some ps =>
    obtain ⟨qs, hqs, htrails⟩ := exists_piecesFrom_append_blank hws hps
    have hpieces : pieces? (cs ++ ws) = some qs := hqs
    rw [hpieces]
    exact (parseSteps_congr (htrails.imp fun _ _ h => h.trim_eq) 1).symm

theorem parseChain_blank_append (hws : Blank ws) (cs : List Char) :
    parseChain jumpNeeded (ws ++ cs) = parseChain jumpNeeded cs := by
  unfold parseChain
  rw [pieces?_blank_append hws]
  cases hps : pieces? cs with
  | none => rfl
  | some ps =>
    cases ps with
    | nil => exact absurd rfl (joinArrows_of_pieces? hps).1
    | cons p ps =>
      rw [Option.map_some, pushText_cons]
      simp only [parseSteps, parseStep_congr (trim_append_left hws p)]

/-- Blanks around the text of steps belong to its first and its last step. -/
theorem parseChain_trim (cs : List Char) :
    parseChain jumpNeeded (trim cs) = parseChain jumpNeeded cs := by
  obtain ⟨ws, ws', hws, hws', hcs⟩ := exists_eq_trim cs
  conv => rhs; rw [hcs]
  rw [parseChain_append_blank hws', parseChain_blank_append hws]

/-! ## Keywords -/

/-- A keyword in any case is a word. -/
theorem solid_of_keyword {w keyword : List Char} (h : lower w = keyword) (hne : keyword ≠ [])
    (hkeyword : keyword.all (!isBlank ·) = true) : w ≠ [] ∧ Solid w := by
  refine ⟨?_, solid_of_lower (h ▸ solid_of_all hkeyword)⟩
  rintro rfl
  exact hne h.symm

theorem passes_of_jumpWord {j : List Char} (h : lower j = jumpWord) (n : Nat) :
    Scan.Passes (.inside n) j (.inside n) := by
  refine .of_plain_of_ne (fun c hc =>
    Scan.plain_of_test (p := fun c => jumpWord.contains c.toLower) rfl ?_) n
  rw [← h]
  exact List.contains_iff_mem.2 (List.mem_map_of_mem hc)

theorem trim_ne_nil_of_keyword {keyword : List Char} (h : lower (splitWord cs).1 = keyword)
    (hne : keyword ≠ []) : trim cs ≠ [] := by
  intro hempty
  rw [← splitWord_trim, hempty] at h
  exact hne h.symm

/-- A line whose first word is `jump` is read as its steps. -/
theorem parseChars_of_jumpWord (h : lower (splitWord cs).1 = jumpWord) :
    parseChars cs = (parseChain true cs).map ofJumps := by
  have hne : trim cs ≠ [] := trim_ne_nil_of_keyword h (by decide)
  simp only [parseChars, splitWord_trim, List.isEmpty_iff, hne, h, ↓reduceIte, parseChain_trim]

/-- A line whose first word is `chain` is read as the steps behind it, of which there has to be
one. -/
theorem parseChars_of_chainWord (h : lower (splitWord cs).1 = chainWord) :
    parseChars cs = if (splitWord cs).2 = [] then .error (.missingAddress 1)
      else (parseChain false (splitWord cs).2).map .chain := by
  have hne : trim cs ≠ [] := trim_ne_nil_of_keyword h (by decide)
  simp only [parseChars, splitWord_trim, List.isEmpty_iff, hne, h, jumpWord_ne_chainWord.symm,
    ↓reduceIte]

/-! ## Heads -/

/-- What stands in front of the text of the steps in a line that starts with a keyword: nothing in a
line of jumps, which all have their own keyword, and `chain` with the blanks around it in a line of
that keyword, where blanks are needed unless nothing follows. -/
inductive Headed : (jumpNeeded : Bool) → (head text : List Char) → Prop
  | jumps {text : List Char} (hword : lower (splitWord text).1 = jumpWord) : Headed true [] text
  | chain {ws w gap text : List Char} (hws : Blank ws) (hw : lower w = chainWord)
      (hgap : Blank gap) (hbare : gap = [] → text = []) : Headed false (ws ++ (w ++ gap)) text

/-- What the text of steps is read as. -/
def commandOf (jumpNeeded : Bool) (text : List Char) : Except ParseError Command :=
  if jumpNeeded then (parseChain true text).map ofJumps
  else if trim text = [] then .error (.missingAddress 1)
  else (parseChain false text).map .chain

/-- A line that starts with `chain` has a head. -/
theorem exists_headed (h : lower (splitWord cs).1 = chainWord) :
    ∃ head text, Headed false head text ∧ cs = head ++ text := by
  obtain ⟨ws, tail, hws, -, htail, hcs, -, -⟩ := exists_splitWord cs
  obtain ⟨gap, hgap, htext⟩ := exists_eq_trimStart tail
  refine ⟨ws ++ ((splitWord cs).1 ++ gap), trimStart tail, .chain hws h hgap fun hnil => ?_, ?_⟩
  · -- Without a blank behind the word nothing is behind it.
    rw [hnil, List.nil_append] at htext
    rw [← htext]
    cases tail with
    | nil => rfl
    | cons c tail =>
      have hblank := htail c rfl
      rw [head_trimStart (c :: tail) (by rw [← htext]; rfl)] at hblank
      cases hblank
  · rw [List.append_assoc, List.append_assoc, ← htext, ← List.append_assoc]
    exact hcs

/-- Behind the head of a chain that has steps any other steps may stand. -/
theorem Headed.replace (h : Headed false head text) (hne : text ≠ []) (text' : List Char) :
    Headed false head text' := by
  cases h with
  | chain hws hw hgap hbare => exact .chain hws hw hgap fun hnil => absurd (hbare hnil) hne

/-- A line that starts with a keyword is what the text of its steps is read as. -/
theorem parseChars_of_headed (h : Headed jumpNeeded head text) :
    parseChars (head ++ text) = commandOf jumpNeeded text := by
  cases h with
  | jumps hword => exact parseChars_of_jumpWord hword
  | @chain ws w gap text hws hw hgap hbare =>
    have htail : EndsWord (gap ++ text) := by
      by_cases hnil : gap = []
      · rw [hnil, hbare hnil]
        exact endsWord_nil
      · exact Gap.endsWord ⟨hnil, hgap⟩ text
    obtain ⟨hne, hsolid⟩ := solid_of_keyword hw (by decide) rfl
    have hsplit : splitWord (ws ++ (w ++ gap) ++ text) = (w, trim text) := by
      rw [List.append_assoc, List.append_assoc, splitWord_append_left hws,
        splitWord_append hne hsolid htail, trim_append_left hgap]
    rw [parseChars_of_chainWord (by rw [hsplit]; exact hw), hsplit, parseChain_trim]
    rfl

/-- A blank text has no steps. -/
theorem trim_ne_nil_of_parseChain {ss : List Step} (h : parseChain jumpNeeded text = .ok ss) :
    trim text ≠ [] := by
  intro hempty
  rw [← parseChain_trim, hempty] at h
  cases h

/-- The command of steps: jumps may be one, a chain has any number. -/
theorem commandOf_eq_ok_iff {c : Command} :
    commandOf jumpNeeded text = .ok c ↔
      ∃ ss, parseChain jumpNeeded text = .ok ss ∧
        c = if jumpNeeded then ofJumps ss else .chain ss := by
  unfold commandOf
  cases jumpNeeded with
  | true => rw [if_pos rfl, map_eq_ok_iff]; rfl
  | false =>
    simp only [Bool.false_eq_true, ↓reduceIte]
    by_cases hempty : trim text = []
    · rw [if_pos hempty]
      exact iff_of_false nofun fun ⟨ss, hss, _⟩ => trim_ne_nil_of_parseChain hss hempty
    · rw [if_neg hempty, map_eq_ok_iff]

/-- The first word of some jumps is in the first of them. -/
theorem firstWord_take (hword : lower (splitWord text).1 = jumpWord) (hps : pieces? text = some ps)
    {k : Nat} (hk : 0 < k) : lower (splitWord (joinArrows (ps.take k))).1 = jumpWord := by
  obtain ⟨ws, tail, hws, hsolid, htail, htext, -, -⟩ := exists_splitWord text
  have hne : (splitWord text).1 ≠ [] := (solid_of_keyword hword (by decide) rfl).1
  have hpasses := (passes_of_blank hws 0).append (passes_of_jumpWord hword 0)
  obtain ⟨k, rfl⟩ := Nat.exists_eq_add_one_of_ne_zero (Nat.ne_of_gt hk)
  -- The keyword is the whole text, or it is in the first piece with a blank behind it.
  cases tail with
  | nil =>
    rw [List.append_nil] at htext
    rw [← htext] at hpasses
    obtain rfl : [text] = ps := Option.some.inj ((pieces?_of_passes hpasses).symm.trans hps)
    rw [List.take_of_length_le (by simp), joinArrows]
    exact hword
  | cons b tail =>
    have hb : Blank [b] := List.forall_mem_singleton.2 (htail b rfl)
    have hpieces := (hpasses.append (passes_of_blank hb 0)) tail
    rw [List.append_assoc, List.singleton_append, ← htext, ← Scan.start_eq, ← pieces?, hps]
      at hpieces
    obtain ⟨qs, hqs, rfl⟩ := Option.map_eq_some_iff.1 hpieces.symm
    cases qs with
    | nil => exact absurd rfl (joinArrows_of_pieces? hqs).1
    | cons q qs =>
      rw [pushText_cons, List.take_succ_cons]
      obtain ⟨more, hmore⟩ := exists_joinArrows_eq
        (ws ++ (splitWord text).1 ++ [b] ++ q) (qs.take k)
      have hends : EndsWord ([b] ++ (q ++ more)) := fun c hc => Option.some.inj hc ▸ htail b rfl
      rw [hmore]
      simp only [List.append_assoc]
      rw [splitWord_append_left hws, splitWord_append hne hsolid hends]
      exact hword

/-- A line that is cut behind some of its pieces has the same head. -/
theorem Headed.take (h : Headed jumpNeeded head text) (hps : pieces? text = some ps) {k : Nat}
    (hk : 0 < k) : Headed jumpNeeded head (joinArrows (ps.take k)) := by
  cases h with
  | jumps hword => exact .jumps (firstWord_take hword hps hk)
  | chain hws hw hgap hbare =>
    refine .chain hws hw hgap fun hnil => ?_
    have hbegins := (joinArrows_take_begins ps hk).1
    rw [(joinArrows_of_pieces? hps).2, hbare hnil] at hbegins
    exact List.prefix_nil.1 hbegins

end Line

end ActionTree
