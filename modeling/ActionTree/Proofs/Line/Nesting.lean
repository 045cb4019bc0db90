import ActionTree.Proofs.Line.Balance

/-!
# Splitting at the top level

The scan of a line keeps a depth. It can be told without one: read the text with respect to its
string literals only, and count the brackets that stand outside of them. The depth is the
difference of the two counts, and the scan stops where there are more closing brackets than opening
ones. So the texts that cannot be split are those with such a beginning, with unequal counts in the
whole, or with an end inside a string. All others are split without loss, and the pieces of two
texts with an arrow between them are those of the texts.

* `Quoting.bare`: the characters outside of string literals; `opened`, `closed`: their brackets.
* `Scan.step_counts`, `Scan.run_counts`: a scan that goes on counts brackets.
* `Scan.run_eq_none_iff_counts`: a scan stops where too many brackets are closed.
* `split_is_lossless`: the whole account.
-/

namespace ActionTree

/-- Where the reading of a text is with respect to string literals. -/
inductive Quoting where
  | outside
  | inside
  /-- Behind a backslash in a string literal. -/
  | escaping
  deriving DecidableEq

namespace Quoting

/-- The reading behind one more character. A backslash escapes one character, in strings only. -/
def next : Quoting → Char → Quoting
  | outside, c => if c = '"' then inside else outside
  | inside, c => if c = '\\' then escaping else if c = '"' then outside else inside
  | escaping, _ => inside

/-- The reading behind a text. -/
def behind (q : Quoting) (cs : List Char) : Quoting := cs.foldl next q

/-- The characters of a text that stand outside of its string literals. -/
def bare : Quoting → List Char → List Char
  | _, [] => []
  | outside, c :: cs => c :: bare (outside.next c) cs
  | q, c :: cs => bare (q.next c) cs

/-- The opening brackets outside of string literals. -/
def opened (q : Quoting) (cs : List Char) : Nat := (q.bare cs).countP (· ∈ ['\x7b', '['])

/-- The closing brackets outside of string literals. -/
def closed (q : Quoting) (cs : List Char) : Nat := (q.bare cs).countP (· ∈ ['\x7d', ']'])

variable (q : Quoting) (c : Char) (cs : List Char)

theorem bare_cons : q.bare (c :: cs) = q.bare [c] ++ (q.next c).bare cs := by
  cases q <;> rfl

theorem opened_cons : q.opened (c :: cs) = q.opened [c] + (q.next c).opened cs := by
  rw [opened, bare_cons, List.countP_append]
  rfl

theorem closed_cons : q.closed (c :: cs) = q.closed [c] + (q.next c).closed cs := by
  rw [closed, bare_cons, List.countP_append]
  rfl

end Quoting

namespace Scan

/-- A scan with respect to string literals. -/
def quoting (s : Scan) : Quoting :=
  if s.inString then if s.escaped then .escaping else .inside else .outside

variable {s t : Scan} {c : Char} {cs : List Char}

theorem quoting_eq_outside_iff : s.quoting = .outside ↔ s.inString = false := by
  unfold quoting
  cases s.inString <;> cases s.escaped <;> simp

/-- Inside a string literal the depth stays, and no bracket counts. -/
theorem step_counts_inside {depth : Nat} {escaped : Bool}
    (h : step ⟨depth, true, escaped⟩ c = some t) :
    t.quoting = (quoting ⟨depth, true, escaped⟩).next c ∧ t.depth = depth := by
  cases escaped with
  | true =>
    cases h
    exact ⟨rfl, rfl⟩
  | false =>
    simp only [step, ↓reduceIte, Bool.false_eq_true] at h
    split at h
    · rename_i hslash
      cases h
      exact ⟨by simp [quoting, Quoting.next, hslash], rfl⟩
    split at h
    · rename_i hslash hquote
      cases h
      exact ⟨by simp [quoting, Quoting.next, hquote], rfl⟩
    · rename_i hslash hquote
      cases h
      exact ⟨by simp [quoting, Quoting.next, hslash, hquote], rfl⟩

/-- Outside of string literals the depth goes up and down with the brackets. -/
theorem step_counts_outside {depth : Nat} (h : step ⟨depth, false, false⟩ c = some t) :
    t.quoting = Quoting.outside.next c ∧
      t.depth + Quoting.outside.closed [c] = depth + Quoting.outside.opened [c] := by
  simp only [step, ↓reduceIte, Bool.false_eq_true] at h
  split at h
  · rename_i hquote
    cases h
    subst hquote
    exact ⟨rfl, rfl⟩
  rename_i hquote
  have hnext : Quoting.outside.next c = .outside := if_neg hquote
  rw [hnext]
  split at h
  · rename_i hbegin
    cases h
    refine ⟨rfl, ?_⟩
    rcases hbegin with rfl | rfl <;> rfl
  rename_i hbegin
  split at h
  · rename_i hend
    split at h
    · cases h
    · rename_i hdepth
      cases h
      have hone : depth - 1 + 1 = depth := Nat.sub_add_cancel (Nat.pos_of_ne_zero hdepth)
      refine ⟨rfl, ?_⟩
      rcases hend with rfl | rfl <;> exact hone
  · rename_i hend
    cases h
    refine ⟨rfl, ?_⟩
    simp [Quoting.closed, Quoting.opened, Quoting.bare, hbegin, hend]

/-- A step of a scan changes the depth by the bracket that it reads, if it is one. -/
theorem step_counts (hclear : s.Clear) (h : s.step c = some t) :
    t.quoting = s.quoting.next c ∧
      t.depth + s.quoting.closed [c] = s.depth + s.quoting.opened [c] := by
  obtain ⟨depth, inString, escaped⟩ := s
  cases inString with
  | true =>
    obtain ⟨hquoting, rfl⟩ := step_counts_inside h
    refine ⟨hquoting, ?_⟩
    cases escaped <;> rfl
  | false =>
    cases escaped with
    | false => exact step_counts_outside h
    | true => cases hclear rfl

/-- A scan that goes through a text has the difference of the counts as its depth. -/
theorem run_counts (hclear : s.Clear) (h : s.run cs = some t) :
    t.quoting = s.quoting.behind cs ∧
      t.depth + s.quoting.closed cs = s.depth + s.quoting.opened cs := by
  induction cs generalizing s with
  | nil =>
    cases h
    exact ⟨rfl, rfl⟩
  | cons c rest ih =>
    obtain ⟨u, hu, hrest⟩ := Option.bind_eq_some_iff.1 h
    obtain ⟨hquoting, hdepth⟩ := step_counts hclear hu
    obtain ⟨hquoting', hdepth'⟩ := ih (hclear.step hu) hrest
    rw [hquoting] at hquoting' hdepth'
    refine ⟨hquoting', ?_⟩
    rw [Quoting.opened_cons, Quoting.closed_cons]
    omega

/-- A scan stops in a text if and only if a beginning of the text closes more brackets than it opens
and than are open already. -/
theorem run_eq_none_iff_counts (hclear : s.Clear) :
    s.run cs = none ↔ ∃ before, before <+: cs ∧
      s.depth + s.quoting.opened before < s.quoting.closed before := by
  induction cs generalizing s with
  | nil =>
    simp only [run, reduceCtorEq, List.prefix_nil, false_iff, not_exists, not_and]
    rintro before rfl
    exact Nat.not_lt_zero _
  | cons c rest ih =>
    cases hstep : s.step c with
    | none =>
      obtain ⟨hstring, hdepth, hc⟩ := step_eq_none_iff.1 hstep
      have hquoting : s.quoting = .outside := quoting_eq_outside_iff.2 hstring
      refine iff_of_true (by rw [run, hstep, Option.bind_none]) ⟨[c], ⟨rest, rfl⟩, ?_⟩
      rw [hdepth, hquoting]
      rcases hc with rfl | rfl <;> decide
    | some u =>
      obtain ⟨hquoting, hdepth⟩ := step_counts hclear hstep
      rw [run, hstep, Option.bind_some, ih (hclear.step hstep), hquoting]
      constructor
      · rintro ⟨before, hbefore, hcounts⟩
        refine ⟨c :: before, List.cons_prefix_cons.2 ⟨rfl, hbefore⟩, ?_⟩
        rw [Quoting.opened_cons, Quoting.closed_cons]
        omega
      · rintro ⟨before, hbefore, hcounts⟩
        -- A beginning that closes too much has a first character, which is that of the text.
        cases before with
        | nil => exact absurd hcounts (Nat.not_lt_zero _)
        | cons d before =>
          obtain ⟨rfl, hrest⟩ := List.cons_prefix_cons.1 hbefore
          refine ⟨before, hrest, ?_⟩
          rw [Quoting.opened_cons, Quoting.closed_cons] at hcounts
          omega

end Scan

/-! ## The texts that cannot be split -/

/-- The opening brackets of a text outside of its string literals. -/
def openBrackets (cs : List Char) : Nat := Quoting.outside.opened cs

/-- The closing brackets of a text outside of its string literals. -/
def closeBrackets (cs : List Char) : Nat := Quoting.outside.closed cs

/-- Does the text end inside a string literal? -/
def EndsInString (cs : List Char) : Prop := Quoting.outside.behind cs ≠ .outside

instance (cs : List Char) : Decidable (EndsInString cs) := inferInstanceAs (Decidable (¬_))

/-- A text cannot be split if and only if a beginning of it closes more brackets than it opens, the
whole does not close as many as it opens, or it ends inside a string literal. -/
theorem pieces?_eq_none_iff_counts {cs : List Char} :
    pieces? cs = none ↔
      (∃ before, before <+: cs ∧ openBrackets before < closeBrackets before) ∨
        openBrackets cs ≠ closeBrackets cs ∨ EndsInString cs := by
  have hstart : Scan.start.quoting = .outside := rfl
  have hzero : Scan.start.depth = 0 := rfl
  have hnone : Scan.start.run cs = none ↔
      ∃ before, before <+: cs ∧ openBrackets before < closeBrackets before := by
    rw [Scan.run_eq_none_iff_counts Scan.clear_start, hstart]
    simp only [hzero, Nat.zero_add, openBrackets, closeBrackets]
  rw [pieces?, piecesFrom_eq_none_iff]
  cases hrun : Scan.start.run cs with
  | none => exact iff_of_true (fun _ h => by cases h) (.inl (hnone.1 hrun))
  | some t =>
    obtain ⟨hquoting, hdepth⟩ := Scan.run_counts Scan.clear_start hrun
    rw [hstart] at hquoting hdepth
    rw [hzero, Nat.zero_add] at hdepth
    have hbefore : ¬∃ before, before <+: cs ∧ openBrackets before < closeBrackets before := by
      intro h
      rw [hnone.2 h] at hrun
      cases hrun
    have hcounts : t.depth = 0 ↔ openBrackets cs = closeBrackets cs := by
      unfold openBrackets closeBrackets
      omega
    have hstring : t.inString = false ↔ ¬EndsInString cs := by
      rw [EndsInString, ← hquoting, not_not, Scan.quoting_eq_outside_iff]
    have hopen : t.isOpen = false ↔ openBrackets cs ≠ closeBrackets cs ∨ EndsInString cs := by
      rw [← Bool.not_eq_true, Scan.isOpen_iff, hcounts, hstring, not_and_or, not_not]
    rw [or_iff_right hbefore, ← hopen]
    simp only [Option.some.injEq, forall_eq']

/-! ## The whole account -/

theorem joinArrows_eq_intercalate (ps : List (List Char)) :
    joinArrows ps = "->".toList.intercalate ps := by
  induction ps using joinArrows.induct with
  | case1 => rfl
  | case2 p => simp [joinArrows, List.intercalate]
  | case3 p q rest ih =>
    rw [joinArrows, ih]
    simp [List.intercalate]

/-- **Splitting is lossless.** The pieces of a text make the text again, each of them is the only
piece of itself, and texts with an arrow between them have the pieces of both. A text cannot be
split if and only if it ends inside a string or its brackets outside of strings do not balance. -/
theorem split_is_lossless (cs : List Char) :
    (∀ ps, pieces? cs = some ps →
      ps ≠ [] ∧ "->".toList.intercalate ps = cs ∧ ∀ p ∈ ps, pieces? p = some [p]) ∧
    (∀ ds ps qs, pieces? cs = some ps → pieces? ds = some qs →
      pieces? (cs ++ "->".toList ++ ds) = some (ps ++ qs)) ∧
    (pieces? cs = none ↔
      (∃ before, before <+: cs ∧ openBrackets before < closeBrackets before) ∨
        openBrackets cs ≠ closeBrackets cs ∨ EndsInString cs) := by
  refine ⟨fun ps hps => ?_, fun ds ps qs hps hqs => ?_, pieces?_eq_none_iff_counts⟩
  · obtain ⟨hne, hjoin⟩ := joinArrows_of_pieces? hps
    rw [joinArrows_eq_intercalate] at hjoin
    exact ⟨hne, hjoin, pieces?_of_mem hps⟩
  · have harrow : cs ++ "->".toList ++ ds = cs ++ '-' :: '>' :: ds := by simp
    rw [harrow, pieces?_append_arrow hps, hqs, Option.map_some]

/-- A long arrow leaves its first stroke in the piece in front of it, and the arrow in the string
literal is text; a closing bracket behind that makes the text unbalanced. -/
theorem split_beside_quoted_arrow :
    let text := "é--> [\"]->\"]".toList
    let parts := ["é-".toList, " [\"]->\"]".toList]
    pieces? text = some parts ∧ "->".toList.intercalate parts = text ∧
      pieces? "].".toList = none ∧
      pieces? (text ++ "->".toList ++ "9".toList) = some (parts ++ ["9".toList]) := by
  intro text parts
  have hparts : pieces? text = some parts := by decide +kernel
  have hnine : pieces? "9".toList = some ["9".toList] := by decide +kernel
  obtain ⟨hlossless, happend, -⟩ := split_is_lossless text
  obtain ⟨-, hjoin, -⟩ := hlossless parts hparts
  obtain ⟨-, -, hnone⟩ := split_is_lossless "].".toList
  refine ⟨hparts, hjoin, hnone.2 (.inl ⟨"]".toList, ?_, ?_⟩), happend _ _ _ hparts hnine⟩
  · exact ⟨".".toList, by decide⟩
  · decide

end ActionTree
