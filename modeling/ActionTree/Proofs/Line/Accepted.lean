import ActionTree.Engine.Shell
import ActionTree.Proofs.Text.Blank
import Mathlib.Data.List.Forall2

/-!
# What the readers of a line accept

Each reader of a line is opened once: what a successful result says of its input. The number of a
step is only in errors, and the blanks around a text change no result.

* `parsePayload_eq_ok_iff`, `parseTarget_eq_ok_iff`, `parseStep_eq_ok_iff`, `parseSteps_eq_ok_iff`:
  the readers of steps.
* `parseChars_eq_ok_iff`: the three forms of a line.
* `isAbsolute_of_parseChars`: only a shortcut has a relative target.
* `ofLine?_eq_none_of_parse`: a command is no directive.
-/

namespace ActionTree

/-- A step whose target is the same at every cursor. -/
def Step.IsAbsolute (s : Step) : Prop := ∃ a, s.target = .absolute a

namespace Line

open Text

theorem parsePayload_eq_ok_iff {cs : List Char} {n : Nat} {m : Fields Json} :
    parsePayload cs n = .ok m ↔
      trim cs = [] ∧ m = [] ∨ trim cs ≠ [] ∧ Json.parse? (trim cs) = some (.obj m) := by
  unfold parsePayload
  simp only [List.isEmpty_iff]
  by_cases hcs : trim cs = []
  · simp [hcs, eq_comm]
  · rw [if_neg hcs]
    split <;> simp_all

theorem parseTarget_eq_ok_iff {address payload : List Char} {n : Nat} {s : Step} :
    parseTarget address payload n = .ok s ↔
      ∃ a m, Address.parseChars? address = some a ∧ parsePayload payload n = .ok m ∧
        s = ⟨.absolute a, m⟩ := by
  unfold parseTarget
  simp only [List.isEmpty_iff]
  by_cases hempty : address = []
  · subst hempty
    simp [show Address.parseChars? [] = none from rfl]
  rw [if_neg hempty]
  cases Address.parseChars? address with
  | none => simp
  | some a =>
    cases parsePayload payload n with
    | error err => simp [bind, Except.bind]
    | ok m => simp [bind, Except.bind, pure, Except.pure, eq_comm]

/-- A step is read with or without the word `jump`. -/
theorem parseStep_eq_ok_iff {jumpNeeded : Bool} {text : List Char} {n : Nat} {s : Step} :
    parseStep jumpNeeded text n = .ok s ↔
      (lower (splitWord text).1 = jumpWord ∧
        parseTarget (splitWord (splitWord text).2).1 (splitWord (splitWord text).2).2 n = .ok s) ∨
      (jumpNeeded = false ∧ lower (splitWord text).1 ≠ jumpWord ∧
        parseTarget (splitWord text).1 (splitWord text).2 n = .ok s) := by
  unfold parseStep
  simp only [splitWord_trim, List.isEmpty_iff]
  by_cases hempty : trim text = []
  · rw [← splitWord_trim, hempty]
    simp [show splitWord [] = ([], []) from rfl, parseTarget, lower, jumpWord]
  rw [if_neg hempty]
  by_cases hjump : lower (splitWord text).1 = jumpWord
  · simp [hjump]
  · cases jumpNeeded <;> simp [hjump]

/-- The number of a step is in its errors only. -/
theorem parseStep_number {jumpNeeded : Bool} {text : List Char} {s : Step} (n k : Nat) :
    parseStep jumpNeeded text n = .ok s ↔ parseStep jumpNeeded text k = .ok s := by
  simp only [parseStep_eq_ok_iff, parseTarget_eq_ok_iff, parsePayload_eq_ok_iff]

theorem parseSteps_eq_ok_iff {jumpNeeded : Bool} {n : Nat} {ps : List (List Char)}
    {ss : List Step} :
    parseSteps jumpNeeded n ps = .ok ss ↔
      List.Forall₂ (fun p s => parseStep jumpNeeded p 1 = .ok s) ps ss := by
  induction ps generalizing n ss with
  | nil => simp [parseSteps, eq_comm]
  | cons p ps ih =>
    rw [parseSteps, List.forall₂_cons_left_iff]
    -- The number of a step only stands in its errors, so it can be 1 for each of them.
    cases hp : parseStep jumpNeeded p n with
    | error err =>
      have hnone : ∀ s, parseStep jumpNeeded p 1 ≠ .ok s := fun s h => by
        rw [parseStep_number 1 n, hp] at h
        cases h
      simp [bind, Except.bind, hnone]
    | ok s =>
      rw [parseStep_number n 1] at hp
      cases hps : parseSteps jumpNeeded (n + 1) ps with
      | error err => simp [bind, Except.bind, ← ih (n := n + 1), hps]
      | ok rest =>
        simp [bind, Except.bind, pure, Except.pure, ← ih (n := n + 1), hps, hp, @eq_comm _ _ ss]

theorem parseChain_eq_ok_iff {jumpNeeded : Bool} {text : List Char} {ss : List Step} :
    parseChain jumpNeeded text = .ok ss ↔
      ∃ ps, pieces? text = some ps ∧
        List.Forall₂ (fun p s => parseStep jumpNeeded p 1 = .ok s) ps ss := by
  unfold parseChain
  cases pieces? text with
  | none => simp
  | some ps => simp [parseSteps_eq_ok_iff]

/-- Each piece of an accepted text is a step. -/
theorem exists_parseStep_of_mem {jumpNeeded : Bool} {ps : List (List Char)} {ss : List Step}
    (h : List.Forall₂ (fun p s => parseStep jumpNeeded p 1 = .ok s) ps ss) :
    ∀ p ∈ ps, ∃ s, parseStep jumpNeeded p 1 = .ok s :=
  ((List.forall₂_and_left ps ss).1 (h.imp fun _ s hs => ⟨⟨s, hs⟩, hs⟩)).1

theorem parseShortcut_eq_ok_iff {digits payload : List Char} {c : Command} :
    parseShortcut digits payload = .ok c ↔
      ∃ k m, Address.segment? digits = some k ∧ parsePayload payload 1 = .ok m ∧
        c = .shortcut ⟨.relative k, m⟩ := by
  unfold parseShortcut
  cases Address.segment? digits with
  | none => simp
  | some k =>
    cases parsePayload payload 1 with
    | error err => simp [bind, Except.bind]
    | ok m => simp [bind, Except.bind, pure, Except.pure, eq_comm]

theorem map_eq_ok_iff {α β ε : Type} {f : α → β} {x : Except ε α} {b : β} :
    x.map f = .ok b ↔ ∃ a, x = .ok a ∧ b = f a := by
  cases x <;> simp [Except.map, eq_comm]

theorem map_eq_error_iff {α β ε : Type} {f : α → β} {x : Except ε α} {e : ε} :
    x.map f = .error e ↔ x = .error e := by
  cases x <;> simp [Except.map]

theorem jumpWord_ne_chainWord : jumpWord ≠ chainWord := by decide

/-- The three forms of a line: jumps, a chain and a shortcut. -/
theorem parseChars_eq_ok_iff {cs : List Char} {c : Command} :
    parseChars cs = .ok c ↔
      (lower (splitWord cs).1 = jumpWord ∧
        ∃ ss, parseChain true (trim cs) = .ok ss ∧ c = ofJumps ss) ∨
      (lower (splitWord cs).1 = chainWord ∧ (splitWord cs).2 ≠ [] ∧
        ∃ ss, parseChain false (splitWord cs).2 = .ok ss ∧ c = .chain ss) ∨
      ((∀ d ∈ (splitWord cs).1, d.isDigit = true) ∧
        parseShortcut (splitWord cs).1 (splitWord cs).2 = .ok c) := by
  unfold parseChars
  simp only [splitWord_trim, List.isEmpty_iff]
  by_cases hempty : trim cs = []
  · rw [← splitWord_trim, hempty]
    simp [show splitWord [] = ([], []) from rfl, lower, jumpWord, chainWord, parseShortcut,
      show Address.segment? [] = none from rfl]
  rw [if_neg hempty]
  have hdigits : (lower (splitWord cs).1).all (·.isDigit) = true ↔
      ∀ d ∈ (splitWord cs).1, d.isDigit = true := by simp [lower]
  -- A keyword is no number, so at most one of the forms fits the first word.
  by_cases hjump : lower (splitWord cs).1 = jumpWord
  · have hnot : ¬ ∀ d ∈ (splitWord cs).1, d.isDigit = true := by
      rw [← hdigits, hjump]
      decide
    rw [if_pos hjump, map_eq_ok_iff]
    simp only [hjump, jumpWord_ne_chainWord, hnot, true_and, false_and, or_false]
  rw [if_neg hjump]
  by_cases hchain : lower (splitWord cs).1 = chainWord
  · have hnot : ¬ ∀ d ∈ (splitWord cs).1, d.isDigit = true := by
      rw [← hdigits, hchain]
      decide
    rw [if_pos hchain]
    simp only [hchain, jumpWord_ne_chainWord.symm, hnot, true_and, false_and, or_false, false_or]
    by_cases hrest : (splitWord cs).2 = []
    · simp [hrest]
    · rw [if_neg hrest, map_eq_ok_iff]
      simp only [ne_eq, hrest, not_false_eq_true, true_and]
  rw [if_neg hchain]
  simp only [hjump, hchain, false_and, false_or]
  by_cases hall : ∀ d ∈ (splitWord cs).1, d.isDigit = true
  · rw [if_pos (hdigits.2 hall)]
    exact ⟨fun h => ⟨hall, h⟩, And.right⟩
  · simp only [if_neg (mt hdigits.1 hall), hall, false_and, reduceCtorEq]

/-! ## Targets -/

theorem isAbsolute_of_parseStep {jumpNeeded : Bool} {text : List Char} {n : Nat} {s : Step}
    (h : parseStep jumpNeeded text n = .ok s) : s.IsAbsolute := by
  simp only [parseStep_eq_ok_iff, parseTarget_eq_ok_iff] at h
  rcases h with ⟨-, a, m, -, -, rfl⟩ | ⟨-, -, a, m, -, -, rfl⟩ <;> exact ⟨a, rfl⟩

theorem isAbsolute_of_parseChain {jumpNeeded : Bool} {text : List Char} {ss : List Step}
    (h : parseChain jumpNeeded text = .ok ss) : ∀ s ∈ ss, s.IsAbsolute := by
  obtain ⟨ps, -, hps⟩ := parseChain_eq_ok_iff.1 h
  clear h
  induction hps with
  | nil => simp
  | cons hp _ ih => exact List.forall_mem_cons.2 ⟨isAbsolute_of_parseStep hp, ih⟩

/-- The steps of a command go to the same nodes at every cursor, unless it is a shortcut. -/
theorem isAbsolute_of_parseChars {cs : List Char} {c : Command} (h : parseChars cs = .ok c) :
    (∃ s, c = .shortcut s) ∨ ∀ s ∈ c.steps, s.IsAbsolute := by
  rcases parseChars_eq_ok_iff.1 h with ⟨-, ss, hss, rfl⟩ | ⟨-, -, ss, hss, rfl⟩ | ⟨-, hshort⟩
  · right
    have habsolute := isAbsolute_of_parseChain hss
    unfold ofJumps
    split <;> exact habsolute
  · exact .inr (isAbsolute_of_parseChain hss)
  · obtain ⟨k, m, -, -, rfl⟩ := parseShortcut_eq_ok_iff.1 hshort
    exact .inl ⟨_, rfl⟩

/-! ## Directives -/

/-- Is the word neither a number nor one that starts jumps or a chain? -/
def isOtherWord (w : List Char) : Bool :=
  w.all (!isBlank ·) && w != jumpWord && w != chainWord && (w.isEmpty || !w.all (·.isDigit))

/-- A single word that is neither a number nor starts jumps or a chain is no command. -/
theorem parseChars_ne_ok_of_word {cs : List Char} (h : isOtherWord (lower (trim cs)) = true)
    (c : Command) : parseChars cs ≠ .ok c := by
  simp only [isOtherWord, Bool.and_eq_true, bne_iff_ne, ne_eq] at h
  obtain ⟨⟨⟨hsolid, hjump⟩, hchain⟩, hdigits⟩ := h
  have hsolid : Solid (trim cs) := solid_of_lower (solid_of_all hsolid)
  have hfirst : (splitWord cs).1 = trim cs := by
    rw [← splitWord_trim]
    by_cases hempty : trim cs = []
    · rw [hempty]
      rfl
    · have hsplit := splitWord_append hempty hsolid endsWord_nil
      rw [List.append_nil] at hsplit
      rw [hsplit]
  -- The line is its own first word, and that is the word of none of the forms.
  intro hok
  rcases parseChars_eq_ok_iff.1 hok with ⟨hword, -⟩ | ⟨hword, -⟩ | ⟨hall, hshort⟩
  · exact hjump (hfirst ▸ hword)
  · exact hchain (hfirst ▸ hword)
  · rw [hfirst] at hall hshort
    by_cases hempty : trim cs = []
    · rw [hempty] at hshort
      cases hshort
    · have hlower : (lower (trim cs)).all (·.isDigit) = true := by simpa [lower] using hall
      rw [hlower] at hdigits
      simp [lower, hempty] at hdigits

/-- A command is no directive. -/
theorem ofLine?_eq_none_of_parse {line : String} {c : Command}
    (h : parse line = .ok c) : Directive.ofLine? line = none := by
  have hword : ∀ w : String, isOtherWord w.toList = true →
      String.ofList (lower (trim line.toList)) ≠ w := by
    intro w hw hline
    rw [← hline, String.toList_ofList] at hw
    exact parseChars_ne_ok_of_word hw c h
  unfold Directive.ofLine?
  split
  case h_7 => rfl
  all_goals exact absurd ‹_› (hword _ rfl)

end Line

end ActionTree
