import ActionTree.Text.Blank
import Mathlib.Data.List.Basic
import Mathlib.Data.List.TakeWhile

/-!
# Trimming and words

A text is blanks, the trimmed text and blanks, in this one way: a text without blanks at its ends is
what trimming leaves of it with blanks around it. A first word splits off in the same manner, in
front of the end or of a blank.

* `Blank`, `Solid`, `Gap`: texts of blanks, without blanks, and of at least one blank.
* `trim_append_left`, `trim_append_right`: blanks at the ends change no trimmed text.
* `exists_eq_trim`, `trim_trim`: a text by its trimmed text.
* `splitWord_append`, `exists_splitWord`: splitting at the first gap, both ways.
-/

namespace ActionTree.Text

/-- A text of blanks. -/
def Blank (cs : List Char) : Prop := ∀ c ∈ cs, isBlank c = true

/-- A text without blanks. -/
def Solid (cs : List Char) : Prop := ∀ c ∈ cs, isBlank c = false

/-- At least one blank and nothing else. -/
structure Gap (cs : List Char) : Prop where
  ne_nil : cs ≠ []
  blank : Blank cs

/-- A text that ends a word in front of it: it is empty or starts with a blank. -/
def EndsWord (cs : List Char) : Prop := ∀ c, cs.head? = some c → isBlank c = true

theorem solid_of_all {cs : List Char} (h : cs.all (!isBlank ·) = true) : Solid cs := by
  simpa [Solid] using h

theorem blank_nil : Blank [] := by simp [Blank]

theorem Blank.append {cs ds : List Char} (hcs : Blank cs) (hds : Blank ds) : Blank (cs ++ ds) := by
  intro c h
  exact (List.mem_append.1 h).elim (hcs c) (hds c)

theorem Blank.endsWord {cs : List Char} (h : Blank cs) : EndsWord cs :=
  fun c hc => h c (List.mem_of_mem_head? hc)

theorem endsWord_nil : EndsWord [] := blank_nil.endsWord

theorem Gap.endsWord {g : List Char} (h : Gap g) (cs : List Char) : EndsWord (g ++ cs) := by
  intro c hc
  rw [List.head?_append_of_ne_nil _ h.ne_nil] at hc
  exact h.blank.endsWord c hc

theorem EndsWord.append_blank {cs ws : List Char} (h : EndsWord cs) (hws : Blank ws) :
    EndsWord (cs ++ ws) := by
  intro c hc
  rw [List.head?_append] at hc
  cases hcs : cs.head? with
  | none => exact hws.endsWord c (by simpa [hcs] using hc)
  | some d => exact h c (by simpa [hcs] using hc)

/-! ## Trimming -/

theorem trimStart_append {ws : List Char} (h : Blank ws) (cs : List Char) :
    trimStart (ws ++ cs) = trimStart cs := List.dropWhile_append_of_pos h

theorem trimStart_of_blank {ws : List Char} (h : Blank ws) : trimStart ws = [] :=
  List.dropWhile_eq_nil_iff.2 h

theorem trimEnd_append {ws : List Char} (h : Blank ws) (cs : List Char) :
    trimEnd (cs ++ ws) = trimEnd cs := by
  rw [trimEnd, List.reverse_append, List.dropWhile_append_of_pos (by simpa [Blank] using h),
    trimEnd]

/-- Blanks in front of a text change nothing of what trimming leaves. -/
theorem trim_append_left {ws : List Char} (h : Blank ws) (cs : List Char) :
    trim (ws ++ cs) = trim cs := by
  rw [trim, trimStart_append h, trim]

theorem trim_of_blank {ws : List Char} (h : Blank ws) : trim ws = [] := by
  rw [trim, trimStart_of_blank h]
  rfl

/-- Blanks behind a text change nothing of what trimming leaves. -/
theorem trim_append_right {ws : List Char} (h : Blank ws) (cs : List Char) :
    trim (cs ++ ws) = trim cs := by
  rw [trim, trimStart, List.dropWhile_append]
  split
  · rename_i hcs
    rw [trim, trimStart, List.isEmpty_iff.1 hcs, ← trimStart, trimStart_of_blank h]
  · rw [trimEnd_append h, trim, trimStart]

theorem exists_eq_trimStart (cs : List Char) : ∃ ws, Blank ws ∧ cs = ws ++ trimStart cs :=
  ⟨cs.takeWhile isBlank, fun _ => List.mem_takeWhile_imp, List.takeWhile_append_dropWhile.symm⟩

theorem exists_eq_trimEnd (cs : List Char) : ∃ ws, Blank ws ∧ cs = trimEnd cs ++ ws := by
  obtain ⟨ws, hws, h⟩ := exists_eq_trimStart cs.reverse
  refine ⟨ws.reverse, by simpa [Blank] using hws, ?_⟩
  have hcs := congrArg List.reverse h
  rwa [List.reverse_reverse, List.reverse_append] at hcs

/-- A text is its trimmed text with blanks around it. -/
theorem exists_eq_trim (cs : List Char) :
    ∃ ws ws', Blank ws ∧ Blank ws' ∧ cs = ws ++ trim cs ++ ws' := by
  obtain ⟨ws, hws, hstart⟩ := exists_eq_trimStart cs
  obtain ⟨ws', hws', hend⟩ := exists_eq_trimEnd (trimStart cs)
  refine ⟨ws, ws', hws, hws', ?_⟩
  rw [trim, List.append_assoc, ← hend]
  exact hstart

/-- Neither the first nor the last character of a text is blank. -/
structure Trimmed (cs : List Char) : Prop where
  head : ∀ c, cs.head? = some c → isBlank c = false
  last : ∀ c, cs.getLast? = some c → isBlank c = false

theorem Solid.trimmed {cs : List Char} (h : Solid cs) : Trimmed cs where
  head c hc := h c (List.mem_of_mem_head? hc)
  last c hc := h c (List.mem_of_getLast? hc)

theorem head_trimStart (cs : List Char) {c : Char} (h : (trimStart cs).head? = some c) :
    isBlank c = false := by
  have hnot := List.head?_dropWhile_not isBlank cs
  rw [← trimStart, h] at hnot
  exact hnot

theorem trimmed_trim (cs : List Char) : Trimmed (trim cs) := by
  constructor
  · intro c hc
    obtain ⟨ws, -, h⟩ := exists_eq_trimEnd (trimStart cs)
    refine head_trimStart cs ?_
    rw [h, List.head?_append, ← trim, hc]
    rfl
  · intro c hc
    rw [trim, trimEnd, List.getLast?_reverse] at hc
    exact head_trimStart _ hc

theorem trimStart_eq_self {cs : List Char} (h : ∀ c, cs.head? = some c → isBlank c = false) :
    trimStart cs = cs := by
  cases cs with
  | nil => rfl
  | cons c cs => exact List.dropWhile_cons_of_neg (by simp [h c rfl])

theorem Trimmed.trimStart_eq {cs : List Char} (h : Trimmed cs) : trimStart cs = cs :=
  trimStart_eq_self h.head

theorem Trimmed.trim_eq {cs : List Char} (h : Trimmed cs) : trim cs = cs := by
  rw [trim, h.trimStart_eq, trimEnd, ← trimStart,
    trimStart_eq_self fun c hc => h.last c (by rwa [List.head?_reverse] at hc),
    List.reverse_reverse]

/-- No blanks are left behind a text without blanks at its ends. -/
theorem Trimmed.eq_nil_of_append {cs ws : List Char} (h : Trimmed (cs ++ ws)) (hws : Blank ws) :
    ws = [] := by
  cases hlast : ws.getLast? with
  | none => exact List.getLast?_eq_none_iff.1 hlast
  | some c =>
    have hblank := hws c (List.mem_of_mem_getLast? hlast)
    rw [h.last c (by rw [List.getLast?_append, hlast]; rfl)] at hblank
    cases hblank

/-- Nor in front of it. -/
theorem Trimmed.eq_nil_of_blank {cs ws : List Char} (h : Trimmed (ws ++ cs)) (hws : Blank ws) :
    ws = [] := by
  cases ws with
  | nil => rfl
  | cons c ws =>
    have hblank := hws c (by simp)
    rw [h.head c rfl] at hblank
    cases hblank

/-- Blanks that end a word in front of another word are a gap. -/
theorem gap_of_endsWord {ws cs more : List Char} (h : EndsWord (ws ++ (cs ++ more)))
    (hws : Blank ws) (hne : cs ≠ []) (hhead : ∀ c, cs.head? = some c → isBlank c = false) :
    Gap ws := by
  refine ⟨?_, hws⟩
  rintro rfl
  cases cs with
  | nil => exact hne rfl
  | cons c cs =>
    have hblank := h c rfl
    rw [hhead c rfl] at hblank
    cases hblank

@[simp] theorem trim_trim (cs : List Char) : trim (trim cs) = trim cs := (trimmed_trim cs).trim_eq

theorem trim_eq_nil_iff {cs : List Char} : trim cs = [] ↔ Blank cs := by
  constructor
  · intro h
    obtain ⟨ws, ws', hws, hws', hcs⟩ := exists_eq_trim cs
    rw [h, List.append_nil] at hcs
    exact hcs ▸ hws.append hws'
  · exact trim_of_blank

/-! ## The first word -/

theorem splitWord_append_left {ws : List Char} (h : Blank ws) (cs : List Char) :
    splitWord (ws ++ cs) = splitWord cs := by
  simp only [splitWord, trimStart_append h]

theorem splitWord_of_blank {ws : List Char} (h : Blank ws) : splitWord ws = ([], []) := by
  simp only [splitWord, trimStart_of_blank h]
  rfl

/-- A word splits off in front of the end or of a blank. -/
theorem splitWord_append {w tail : List Char} (hne : w ≠ []) (hw : Solid w)
    (htail : EndsWord tail) : splitWord (w ++ tail) = (w, trim tail) := by
  have hstart : trimStart (w ++ tail) = w ++ tail := by
    refine trimStart_eq_self fun c hc => ?_
    rw [List.head?_append_of_ne_nil _ hne] at hc
    exact hw c (List.mem_of_mem_head? hc)
  have hword : ∀ c ∈ w, (!isBlank c) = true := fun c hc => by simp [hw c hc]
  have hdrop : tail.dropWhile (!isBlank ·) = tail ∧ tail.takeWhile (!isBlank ·) = [] := by
    cases tail with
    | nil => exact ⟨rfl, rfl⟩
    | cons c tail =>
      have hc := htail c rfl
      exact ⟨List.dropWhile_cons_of_neg (by simp [hc]), List.takeWhile_cons_of_neg (by simp [hc])⟩
  simp only [splitWord, hstart]
  rw [List.takeWhile_append_of_pos hword, List.dropWhile_append_of_pos hword, hdrop.1, hdrop.2,
    List.append_nil]

/-- A text is blanks, its first word and what ends the word. -/
theorem exists_splitWord (cs : List Char) :
    ∃ ws tail, Blank ws ∧ Solid (splitWord cs).1 ∧ EndsWord tail ∧
      cs = ws ++ (splitWord cs).1 ++ tail ∧ (splitWord cs).2 = trim tail ∧
      ((splitWord cs).1 = [] → tail = []) := by
  obtain ⟨ws, hws, hcs⟩ := exists_eq_trimStart cs
  refine ⟨ws, (trimStart cs).dropWhile (!isBlank ·), hws, ?_, ?_, ?_, rfl, ?_⟩
  · intro c hc
    simpa using List.mem_takeWhile_imp hc
  · intro c hc
    have hnot := List.head?_dropWhile_not (!isBlank ·) (trimStart cs)
    rw [hc] at hnot
    simpa using hnot
  · rw [List.append_assoc]
    simp only [splitWord]
    rw [List.takeWhile_append_dropWhile]
    exact hcs
  · intro h
    simp only [splitWord] at h
    -- The first character is no blank, so an empty word is an empty text.
    cases hstart : trimStart cs with
    | nil => rfl
    | cons c s =>
      have hc := head_trimStart cs (c := c) (by rw [hstart]; rfl)
      rw [hstart, List.takeWhile_cons_of_pos (by simp [hc])] at h
      exact absurd h (by simp)

theorem splitWord_append_right {ws : List Char} (h : Blank ws) (cs : List Char) :
    splitWord (cs ++ ws) = splitWord cs := by
  obtain ⟨us, tail, hus, hsolid, htail, hcs, hrest, hempty⟩ := exists_splitWord cs
  by_cases hword : (splitWord cs).1 = []
  · rw [hempty hword, hword, List.append_nil, List.append_nil] at hcs
    rw [hcs, splitWord_of_blank (hus.append h), splitWord_of_blank hus]
  · have hsplit := splitWord_append hword hsolid (htail.append_blank h)
    rw [trim_append_right h, ← hrest] at hsplit
    conv => lhs; rw [hcs, List.append_assoc, List.append_assoc, splitWord_append_left hus]
    exact hsplit

@[simp] theorem splitWord_trim (cs : List Char) : splitWord (trim cs) = splitWord cs := by
  obtain ⟨ws, ws', hws, hws', hcs⟩ := exists_eq_trim cs
  conv => rhs; rw [hcs]
  rw [splitWord_append_right hws', splitWord_append_left hws]

/-! ## Letters in lower case -/

/-- Only the capital letters of ASCII change in lower case, by 32. -/
theorem toLower_cases (c : Char) :
    c.toLower = c ∨ 65 ≤ c.toNat ∧ c.toNat ≤ 90 ∧ c.toLower.toNat = c.toNat + 32 := by
  by_cases h : c.val ≥ 'A'.val ∧ c.val ≤ 'Z'.val
  · have hhigh : c.toNat ≤ 90 := h.2
    refine .inr ⟨h.1, hhigh, ?_⟩
    have hlower : c.toLower = ⟨c.val + ('a'.val - 'A'.val), _⟩ := dif_pos h
    rw [hlower]
    change (c.val + 32).toNat = c.val.toNat + 32
    rw [UInt32.toNat_add, Nat.mod_eq_of_lt]
    · rfl
    · change c.toNat + 32 < 2 ^ 32
      omega
  · exact .inl (dif_neg h)

theorem isBlank_of_letter {c : Char} (hlow : 65 ≤ c.toNat) (hhigh : c.toNat ≤ 122) :
    isBlank c = false := by
  simp only [isBlank, Bool.or_eq_false_iff, Bool.and_eq_false_iff, decide_eq_false_iff_not,
    beq_eq_false_iff_ne]
  omega

theorem isDigit_eq (c : Char) : c.isDigit = (decide (48 ≤ c.toNat) && decide (c.toNat ≤ 57)) := rfl

/-- Lower case makes no letter blank and no blank a letter. -/
@[simp] theorem isBlank_toLower (c : Char) : isBlank c.toLower = isBlank c := by
  rcases toLower_cases c with h | ⟨hlow, hhigh, h⟩
  · rw [h]
  · rw [isBlank_of_letter hlow (by omega), isBlank_of_letter (by omega) (by omega)]

@[simp] theorem isDigit_toLower (c : Char) : c.toLower.isDigit = c.isDigit := by
  rcases toLower_cases c with h | ⟨hlow, hhigh, h⟩
  · rw [h]
  · rw [isDigit_eq, isDigit_eq, h, decide_eq_false (p := c.toNat + 32 ≤ 57) (by omega),
      decide_eq_false (p := c.toNat ≤ 57) (by omega), Bool.and_false, Bool.and_false]

theorem solid_of_lower {cs : List Char} (h : Solid (lower cs)) : Solid cs := by
  intro c hc
  rw [← isBlank_toLower]
  exact h _ (List.mem_map_of_mem hc)

end ActionTree.Text
