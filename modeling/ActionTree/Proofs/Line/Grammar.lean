import ActionTree.Proofs.Address.Text
import ActionTree.Proofs.Json.Extent
import ActionTree.Proofs.Line.Keyword

/-!
# The grammar of a line

The rules of `LineText` say which texts are lines and what they ask for, with any number of blanks
where one is allowed. They speak of addresses by `AddressText` and of payloads by what is an object,
so no rule mentions the brackets and strings that a line is scanned for: a payload may hold any
arrow, quote or bracket, because the scan stays within its braces.

* `PayloadText`, `StepText`, `LineText`: the rules.
* `StepText.parseStep`, `stepText_of_parseStep`: a step is read as its rule says.
* `StepText.passes`: no arrow in a step separates steps.
* `Line.parse_eq_ok_iff`: a line is accepted as a command if and only if a rule says so.
-/

namespace ActionTree

open Text

/-- The payload of a step: none, or the text of an object behind a gap. -/
inductive PayloadText : List Char → Fields Json → Prop
  | none : PayloadText [] []
  | object {gap p : List Char} {m : Fields Json} (hgap : Gap gap)
      (hp : Json.parse? p = some (.obj m)) : PayloadText (gap ++ p) m

/-- A step between the arrows of a line: the word `jump`, an address and a payload. The word may be
left out if it is not needed. -/
inductive StepText (jumpNeeded : Bool) : List Char → Step → Prop
  | jump {ws j gap address p ws' : List Char} {a : Address} {m : Fields Json} (hws : Blank ws)
      (hj : lower j = Line.jumpWord) (hgap : Gap gap) (ha : AddressText address a)
      (hp : PayloadText p m) (hws' : Blank ws') :
      StepText jumpNeeded (ws ++ (j ++ (gap ++ (address ++ (p ++ ws'))))) ⟨.absolute a, m⟩
  | bare {ws address p ws' : List Char} {a : Address} {m : Fields Json}
      (hneeded : jumpNeeded = false) (hws : Blank ws) (ha : AddressText address a)
      (hp : PayloadText p m) (hws' : Blank ws') :
      StepText jumpNeeded (ws ++ (address ++ (p ++ ws'))) ⟨.absolute a, m⟩

/-- A line without blanks at its ends, and its command: a number, one jump, several jumps, or a
chain. -/
inductive LineText : List Char → Command → Prop
  | shortcut {ds p : List Char} {n : UInt32} {m : Fields Json} (hds : DigitRun ds n)
      (hp : PayloadText p m) : LineText (ds ++ p) (.shortcut ⟨.relative n, m⟩)
  | jump {p : List Char} {s : Step} (hp : StepText true p s) : LineText p (.jump s)
  | jumps {p q : List Char} {ps : List (List Char)} {ss : List Step}
      (hps : List.Forall₂ (StepText true) (p :: q :: ps) ss) :
      LineText (joinArrows (p :: q :: ps)) (.chain ss)
  | chain {w gap p : List Char} {ps : List (List Char)} {ss : List Step}
      (hw : lower w = Line.chainWord) (hgap : Gap gap)
      (hps : List.Forall₂ (StepText false) (p :: ps) ss) :
      LineText (w ++ (gap ++ joinArrows (p :: ps))) (.chain ss)

/-! ## Payloads -/

theorem blank_of_space {sp : List Char} (h : Json.Space sp) : Blank sp := by
  intro c hc
  have hspace := h c hc
  simp only [Json.isSpace, Bool.or_eq_true, decide_eq_true_eq] at hspace
  rcases hspace with ((rfl | rfl) | rfl) | rfl <;> decide

/-- The text of an object without the blanks around it. -/
theorem parse?_trim_object {p : List Char} {m : Fields Json} (h : Json.parse? p = some (.obj m)) :
    trim p ≠ [] ∧ Json.parse? (trim p) = some (.obj m) := by
  obtain ⟨sp, text, sp', hsp, hsp', rfl, hhead, hlast, -, htext⟩ := Json.exists_parse?_object h
  have htrimmed : Trimmed text := by
    constructor
    · intro c hc
      rw [hhead] at hc
      cases hc
      decide
    · intro c hc
      rw [hlast] at hc
      cases hc
      decide
  rw [trim_append_left (blank_of_space hsp), trim_append_right (blank_of_space hsp'),
    htrimmed.trim_eq]
  refine ⟨?_, htext⟩
  rintro rfl
  cases hhead

namespace PayloadText

variable {p : List Char} {m : Fields Json}

theorem endsWord (h : PayloadText p m) : EndsWord p := by
  cases h with
  | none => exact endsWord_nil
  | object hgap => exact hgap.endsWord _

theorem parsePayload {ws : List Char} (h : PayloadText p m) (hws : Blank ws) (n : Nat) :
    Line.parsePayload (trim (p ++ ws)) n = .ok m := by
  rw [Line.parsePayload_eq_ok_iff, trim_trim, trim_append_right hws]
  cases h with
  | none => exact .inl ⟨rfl, rfl⟩
  | object hgap hp =>
    rw [trim_append_left hgap.blank]
    exact .inr (parse?_trim_object hp)

end PayloadText

/-- What is read as a payload is one, with blanks behind it. -/
theorem exists_payloadText {tail : List Char} {n : Nat} {m : Fields Json} (htail : EndsWord tail)
    (h : Line.parsePayload (trim tail) n = .ok m) :
    ∃ p ws, PayloadText p m ∧ Blank ws ∧ tail = p ++ ws := by
  rw [Line.parsePayload_eq_ok_iff, trim_trim] at h
  rcases h with ⟨hempty, rfl⟩ | ⟨hne, hp⟩
  · exact ⟨[], tail, .none, trim_eq_nil_iff.1 hempty, rfl⟩
  · obtain ⟨gap, ws, hgap, hws, heq⟩ := exists_eq_trim tail
    rw [heq, List.append_assoc] at htail
    refine ⟨gap ++ trim tail, ws, ?_, hws, heq⟩
    exact .object (gap_of_endsWord htail hgap hne (trimmed_trim tail).head) hp

/-! ## Steps -/

/-- An address is no keyword. -/
theorem AddressText.lower_ne {cs : List Char} {a : Address} (h : AddressText cs a) :
    lower cs ≠ Line.jumpWord := by
  intro hj
  obtain ⟨c, hc, hlow⟩ := List.mem_map.1 (show 'j' ∈ lower cs by rw [hj]; decide)
  rcases DottedText.mem h c hc with hdigit | rfl
  · rw [← isDigit_toLower, hlow] at hdigit
    exact absurd hdigit (by decide)
  · exact absurd hlow (by decide)

/-- An address and its payload, behind any blanks. -/
theorem splitWord_target {address p ws ws' : List Char} {a : Address} {m : Fields Json}
    (hws : Blank ws) (ha : AddressText address a) (hp : PayloadText p m) (hws' : Blank ws') :
    splitWord (ws ++ (address ++ (p ++ ws'))) = (address, trim (p ++ ws')) := by
  rw [splitWord_append_left hws]
  exact splitWord_append ha.ne_nil ha.solid (hp.endsWord.append_blank hws')

theorem parseTarget_of_text {address p ws : List Char} {a : Address} {m : Fields Json}
    (ha : AddressText address a) (hp : PayloadText p m) (hws : Blank ws) (n : Nat) :
    Line.parseTarget address (trim (p ++ ws)) n = .ok ⟨.absolute a, m⟩ :=
  Line.parseTarget_eq_ok_iff.2
    ⟨a, m, Address.parseChars?_eq_some_iff.2 ha, hp.parsePayload hws n, rfl⟩

namespace StepText

variable {jumpNeeded : Bool} {text : List Char} {s : Step}

/-- A text that a rule says is a step is read as the step. -/
theorem parseStep (h : StepText jumpNeeded text s) (n : Nat) :
    Line.parseStep jumpNeeded text n = .ok s := by
  rw [Line.parseStep_eq_ok_iff]
  cases h with
  | jump hws hj hgap ha hp hws' =>
    obtain ⟨hne, hsolid⟩ := Line.solid_of_keyword hj (by decide) rfl
    rw [splitWord_append_left hws, splitWord_append hne hsolid (hgap.endsWord _)]
    simp only
    rw [splitWord_trim, splitWord_target hgap.blank ha hp hws']
    exact .inl ⟨hj, parseTarget_of_text ha hp hws' n⟩
  | bare hneeded hws ha hp hws' =>
    rw [splitWord_target hws ha hp hws']
    exact .inr ⟨hneeded, ha.lower_ne, parseTarget_of_text ha hp hws' n⟩

end StepText

/-- What is read as an address and its payload is one, with blanks around it. -/
theorem exists_target {rest : List Char} {n : Nat} {s : Step}
    (h : Line.parseTarget (splitWord rest).1 (splitWord rest).2 n = .ok s) :
    ∃ ws address p ws' a m, Blank ws ∧ AddressText address a ∧ PayloadText p m ∧ Blank ws' ∧
      rest = ws ++ (address ++ (p ++ ws')) ∧ s = ⟨.absolute a, m⟩ := by
  obtain ⟨a, m, ha, hp, rfl⟩ := Line.parseTarget_eq_ok_iff.1 h
  obtain ⟨ws, tail, hws, -, htail, hrest, hsecond, -⟩ := exists_splitWord rest
  rw [hsecond] at hp
  obtain ⟨p, ws', hpayload, hws', rfl⟩ := exists_payloadText htail hp
  rw [List.append_assoc] at hrest
  exact ⟨ws, _, p, ws', a, m, hws, Address.parseChars?_eq_some_iff.1 ha, hpayload, hws', hrest,
    rfl⟩

/-- What is read as a step is one by a rule. -/
theorem stepText_of_parseStep {jumpNeeded : Bool} {text : List Char} {n : Nat} {s : Step}
    (h : Line.parseStep jumpNeeded text n = .ok s) : StepText jumpNeeded text s := by
  rw [Line.parseStep_eq_ok_iff] at h
  rcases h with ⟨hj, h⟩ | ⟨hneeded, -, h⟩
  · obtain ⟨ws, tail, hws, -, htail, htext, hsecond, -⟩ := exists_splitWord text
    rw [hsecond, splitWord_trim] at h
    obtain ⟨gap, address, p, ws', a, m, hgap, ha, hp, hws', rfl, rfl⟩ := exists_target h
    have hgap : Gap gap := gap_of_endsWord htail hgap ha.ne_nil
      fun c hc => ha.solid c (List.mem_of_mem_head? hc)
    rw [htext, List.append_assoc]
    exact .jump hws hj hgap ha hp hws'
  · obtain ⟨ws, address, p, ws', a, m, hws, ha, hp, hws', rfl, rfl⟩ := exists_target h
    exact .bare hneeded hws ha hp hws'

/-! ## Arrows -/

open Scan

theorem AddressText.passes {cs : List Char} {a : Address} (h : AddressText cs a) (n : Nat) :
    Passes (inside n) cs (inside n) :=
  .of_plain_of_ne (fun c hc => plain_of_test (p := fun c => c.isDigit || c == '.') rfl
    (by simpa using DottedText.mem h c hc)) n

/-- No arrow in a payload separates steps. -/
theorem PayloadText.passes {p : List Char} {m : Fields Json} (h : PayloadText p m) (n : Nat) :
    Passes (inside n) p (inside n) := by
  cases h with
  | none => exact .nil _
  | object hgap hp =>
    obtain ⟨sp, text, sp', hsp, hsp', rfl, -, -, hpasses, -⟩ := Json.exists_parse?_object hp
    exact (passes_of_blank hgap.blank n).append
      ((hsp.passes n).append ((hpasses n).append (hsp'.passes n)))

/-- No arrow in a step separates steps. -/
theorem StepText.passes {jumpNeeded : Bool} {text : List Char} {s : Step}
    (h : StepText jumpNeeded text s) : Passes .start text .start := by
  rw [start_eq]
  cases h with
  | jump hws hj hgap ha hp hws' =>
    have haddress := (ha.passes 0).append ((hp.passes 0).append (passes_of_blank hws' 0))
    exact (passes_of_blank hws 0).append
      ((Line.passes_of_jumpWord hj 0).append ((passes_of_blank hgap.blank 0).append haddress))
  | bare _ hws ha hp hws' =>
    have haddress := (ha.passes 0).append ((hp.passes 0).append (passes_of_blank hws' 0))
    exact (passes_of_blank hws 0).append haddress

namespace Line

variable {jumpNeeded : Bool} {cs : List Char} {ss : List Step}

/-- Steps with arrows between them are what is read as a chain. -/
theorem parseChain_eq_ok_iff_texts :
    parseChain jumpNeeded cs = .ok ss ↔
      ∃ ps, ps ≠ [] ∧ cs = joinArrows ps ∧ List.Forall₂ (StepText jumpNeeded) ps ss := by
  rw [parseChain_eq_ok_iff]
  constructor
  · rintro ⟨ps, hps, hss⟩
    obtain ⟨hne, hjoin⟩ := joinArrows_of_pieces? hps
    exact ⟨ps, hne, hjoin.symm, hss.imp fun _ _ => stepText_of_parseStep⟩
  · rintro ⟨ps, hne, rfl, hss⟩
    have hpieces := (List.forall₂_and_left ps ss).1
      (hss.imp fun _ _ h => ⟨pieces?_of_passes h.passes, h⟩)
    exact ⟨ps, pieces?_join hne hpieces.1, hss.imp fun _ _ h => h.parseStep 1⟩

theorem lower_firstWord {p : List Char} {s : Step} (h : StepText true p s) (more : List Char) :
    lower (splitWord (p ++ more)).1 = jumpWord := by
  cases h with
  | jump hws hj hgap ha hp hws' =>
    obtain ⟨hne, hsolid⟩ := solid_of_keyword hj (by decide) rfl
    simp only [List.append_assoc]
    rw [splitWord_append_left hws, splitWord_append hne hsolid (hgap.endsWord _)]
    exact hj
  | bare hneeded => cases hneeded

/-! ## Lines -/

/-- A text that a rule says is a line is read as its command. -/
theorem parseChars_of_lineText {c : Command} (h : LineText (trim cs) c) :
    parseChars cs = .ok c := by
  rw [parseChars_eq_ok_iff, ← splitWord_trim]
  generalize trim cs = line at h
  -- The first word of a form selects it, whatever stands behind.
  cases h with
  | @shortcut ds p n m hds hp =>
    rw [splitWord_append hds.ne_nil hds.solid hp.endsWord]
    refine .inr (.inr ⟨hds.digits, ?_⟩)
    rw [parseShortcut_eq_ok_iff]
    refine ⟨n, m, Address.segment?_eq_some_iff.2 hds, ?_, rfl⟩
    simpa using hp.parsePayload blank_nil 1
  | @jump p s hp =>
    refine .inl ⟨?_, [s], parseChain_eq_ok_iff_texts.2 ⟨[line], by simp, rfl, .cons hp .nil⟩, rfl⟩
    simpa using lower_firstWord hp []
  | @jumps p q ps ss hps =>
    refine .inl ⟨?_, ss, parseChain_eq_ok_iff_texts.2 ⟨_, by simp, rfl, hps⟩, ?_⟩
    · cases hps with
      | cons hp _ => exact lower_firstWord hp _
    · cases hps with
      | cons _ hrest =>
        cases hrest
        rfl
  | @chain w gap p ps ss hw hgap hps =>
    obtain ⟨hne, hsolid⟩ := solid_of_keyword hw (by decide) rfl
    rw [splitWord_append hne hsolid (hgap.endsWord _), trim_append_left hgap.blank]
    have hchain : parseChain false (joinArrows (p :: ps)) = .ok ss :=
      parseChain_eq_ok_iff_texts.2 ⟨_, by simp, rfl, hps⟩
    have htrim := (parseChain_trim (joinArrows (p :: ps))).trans hchain
    refine .inr (.inl ⟨hw, fun hempty : trim (joinArrows (p :: ps)) = [] => ?_, ss, htrim, rfl⟩)
    rw [hempty] at htrim
    cases htrim

/-- A line by its first word: no blanks are in front of it. -/
theorem exists_splitWord_trim (cs : List Char) :
    ∃ tail, trim cs = (splitWord cs).1 ++ tail ∧ Trimmed ((splitWord cs).1 ++ tail) ∧
      EndsWord tail ∧ (splitWord cs).2 = trim tail := by
  obtain ⟨ws, tail, hws, -, htail, hline, hrest, -⟩ := exists_splitWord (trim cs)
  rw [splitWord_trim] at hline hrest
  have htrimmed := trimmed_trim cs
  rw [hline, List.append_assoc] at htrimmed
  rw [htrimmed.eq_nil_of_blank hws, List.nil_append] at hline
  exact ⟨tail, hline, hline ▸ trimmed_trim cs, htail, hrest⟩

/-- What is read as a line is one by a rule. -/
theorem lineText_of_parseChars {c : Command} (h : parseChars cs = .ok c) :
    LineText (trim cs) c := by
  obtain ⟨tail, hline, htrimmed, htail, hrest⟩ := exists_splitWord_trim cs
  rcases parseChars_eq_ok_iff.1 h with ⟨-, ss, hss, rfl⟩ | ⟨hw, hne, ss, hss, rfl⟩ | ⟨-, h⟩
  · obtain ⟨ps, hne, hjoin, hps⟩ := parseChain_eq_ok_iff_texts.1 hss
    rw [hjoin]
    cases hps with
    | nil => exact absurd rfl hne
    | cons hp hps =>
      cases hps with
      | nil => exact .jump hp
      | cons hq hps => exact .jumps (.cons hp (.cons hq hps))
  · rw [hrest] at hne hss
    obtain ⟨gap, ws, hgap, hws, htext⟩ := exists_eq_trim tail
    rw [htext, ← List.append_assoc] at htrimmed
    rw [htext, List.append_assoc] at htail
    -- The chain is not empty, so blanks part it from the keyword.
    have hgap := gap_of_endsWord htail hgap hne (trimmed_trim tail).head
    rw [htrimmed.eq_nil_of_append hws, List.append_nil] at htext
    obtain ⟨ps, hps, hjoin, hss⟩ := parseChain_eq_ok_iff_texts.1 hss
    rw [hline, htext, hjoin]
    cases ps with
    | nil => exact absurd rfl hps
    | cons p ps => exact .chain hw hgap hss
  · obtain ⟨n, m, hds, hp, rfl⟩ := parseShortcut_eq_ok_iff.1 h
    rw [hrest] at hp
    obtain ⟨p, ws, hpayload, hws, rfl⟩ := exists_payloadText htail hp
    rw [← List.append_assoc] at htrimmed
    rw [hline, htrimmed.eq_nil_of_append hws, List.append_nil]
    exact .shortcut (Address.segment?_eq_some_iff.1 hds) hpayload

/-- **The grammar of a line.** A line is accepted as a command if and only if the line without the
blanks around it has one of the forms that the rules give it. Only a shortcut has a relative
target. -/
theorem parse_eq_ok_iff (line : String) (c : Command) :
    (parse line = .ok c ↔ LineText (trim line.toList) c) ∧
      (parse line = .ok c → (∃ s, c = .shortcut s) ∨ ∀ s ∈ c.steps, ∃ a, s.target = .absolute a) :=
  ⟨⟨lineText_of_parseChars, parseChars_of_lineText⟩, isAbsolute_of_parseChars⟩

/-- An arrow and a brace within a string of a payload separate nothing. -/
theorem parse_arrow_in_payload :
    let jump (a : Address) (m : Fields Json) : Step := ⟨.absolute a, m⟩
    let line := "jump 0.1 \x7b\"a\": \"->\x7d\"\x7d -> JUMP 0"
    let c : Command := .chain [jump ⟨0, [1]⟩ [("a", .str "->\x7d")], jump .root []]
    LineText (trim line.toList) c ∧ ∀ s ∈ c.steps, ∃ a, s.target = .absolute a := by
  intro jump line c
  have hparse : parse line = .ok c := by decide +kernel
  refine ⟨(parse_eq_ok_iff line c).1.1 hparse, ?_⟩
  rcases (parse_eq_ok_iff line c).2 hparse with ⟨_, hshort⟩ | hsteps
  · simp [c] at hshort
  · exact hsteps

end Line

end ActionTree
