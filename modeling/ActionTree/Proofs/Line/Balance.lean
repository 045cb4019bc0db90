import ActionTree.Proofs.Line.Pieces
import ActionTree.Proofs.Text.Blank

/-!
# Texts that can be split, and their pieces

A text is split unless its brackets and quotes are out of balance, which the scan of the whole text
finds out. Each piece is a text of its own that holds no arrow, so pieces with arrows between them
are split into these pieces again: any of the first pieces of a text, and the pieces of two texts
with an arrow between them. Blanks at the ends of a text go to the ends of its pieces.

* `Unbalanced`, `pieces?_eq_none_iff`: the texts that cannot be split.
* `pieces?_of_mem`: a piece is one piece.
* `pieces?_append_arrow`, `pieces?_join`, `pieces?_take`: pieces of texts that are put together.
* `pieces?_blank_append`, `exists_piecesFrom_append_blank`: blanks at the ends of a text.
-/

namespace ActionTree

open Text

namespace Scan

variable {s t : Scan} {c : Char}

theorem run_append (s : Scan) (a b : List Char) : s.run (a ++ b) = (s.run a).bind (run · b) := by
  induction a generalizing s with
  | nil => rfl
  | cons c a ih =>
    rw [List.cons_append, run, run]
    cases s.step c with
    | none => rfl
    | some t => exact ih t

/-- A scan stops at a closing bracket outside of brackets and strings only. -/
theorem step_eq_none_iff :
    s.step c = none ↔ s.inString = false ∧ s.depth = 0 ∧ (c = '\x7d' ∨ c = ']') := by
  unfold step
  by_cases hstring : s.inString = true
  · simp only [hstring, ↓reduceIte]
    split
    · simp
    · split
      · simp
      · split <;> simp
  · simp only [hstring, Bool.false_eq_true, ↓reduceIte]
    by_cases hquote : c = '"'
    · subst hquote
      simp
    by_cases hbegin : c = '\x7b' ∨ c = '['
    · rcases hbegin with rfl | rfl <;> simp
    by_cases hend : c = '\x7d' ∨ c = ']'
    · by_cases hdepth : s.depth = 0 <;> simp [hquote, hbegin, hend, hdepth]
    · simp [hquote, hbegin, hend]

/-- A scan of a text that does not go through stops at one of its characters. -/
theorem run_eq_none_iff {cs : List Char} :
    s.run cs = none ↔ ∃ before c after t, cs = before ++ c :: after ∧ s.run before = some t ∧
      t.step c = none := by
  constructor
  · intro h
    induction cs generalizing s with
    | nil => cases h
    | cons c rest ih =>
      rw [run] at h
      cases hstep : s.step c with
      | none => exact ⟨[], c, rest, s, rfl, rfl, hstep⟩
      | some u =>
        rw [hstep, Option.bind_some] at h
        obtain ⟨before, d, after, t, rfl, ht, hnone⟩ := ih h
        refine ⟨c :: before, d, after, t, rfl, ?_, hnone⟩
        rw [run, hstep, Option.bind_some, ht]
  · rintro ⟨before, c, after, t, rfl, ht, hnone⟩
    rw [run_append, ht, Option.bind_some, run, hnone, Option.bind_none]

theorem isOpen_iff : s.isOpen = true ↔ s.depth = 0 ∧ s.inString = false := by
  simp [isOpen]

theorem step_of_isOpen (h : s.isOpen = true) (hc : Plain c) : s.step c = some s := by
  obtain ⟨hquote, hbrace, hbracket, hbrace', hbracket'⟩ := hc
  simp [step, (isOpen_iff.1 h).2, hquote, hbrace, hbracket, hbrace', hbracket']

/-- A scan is behind a backslash within a string only. -/
def Clear (s : Scan) : Prop := s.escaped = true → s.inString = true

theorem clear_start : Clear start := nofun

theorem Clear.step (h : s.Clear) (hstep : s.step c = some t) : t.Clear := by
  unfold Scan.step at hstep
  unfold Clear at *
  grind

/-- Outside of everything a scan is as at the start. -/
theorem Clear.eq_start (h : s.Clear) (hopen : s.isOpen = true) : s = start := by
  obtain ⟨hdepth, hstring⟩ := isOpen_iff.1 hopen
  have hescaped : s.escaped = false := by
    rw [← Bool.not_eq_true]
    intro hescaped
    rw [h hescaped] at hstring
    cases hstring
  obtain ⟨depth, inString, escaped⟩ := s
  simp only at hdepth hstring hescaped
  rw [hdepth, hstring, hescaped, start]

end Scan

/-! ## Balance -/

/-- The brackets and quotes of a text are out of balance: the text ends within a string or within
brackets, or a bracket closes nothing. -/
def Unbalanced (cs : List Char) : Prop :=
  (∃ s, Scan.start.run cs = some s ∧ (s.inString = true ∨ s.depth ≠ 0)) ∨
    ∃ before c after s, cs = before ++ c :: after ∧ Scan.start.run before = some s ∧
      s.inString = false ∧ s.depth = 0 ∧ (c = '\x7d' ∨ c = ']')

theorem piecesFrom_nil (s : Scan) : piecesFrom s [] = if s.isOpen then some [[]] else none := rfl

/-- A text is split if its scan goes through and ends outside of everything. -/
theorem piecesFrom_eq_none_iff {s : Scan} {cs : List Char} :
    piecesFrom s cs = none ↔ ∀ t, s.run cs = some t → t.isOpen = false := by
  induction s, cs using split_induction with
  | nil s =>
    rw [piecesFrom_nil, Scan.run]
    cases hopen : s.isOpen <;> simp [hopen]
  | arrow s rest hopen ih =>
    have hrun : s.run ('-' :: '>' :: rest) = s.run rest := by
      rw [Scan.run, Scan.step_of_isOpen hopen (by decide), Option.bind_some, Scan.run,
        Scan.step_of_isOpen hopen (by decide), Option.bind_some]
    rw [piecesFrom_arrow hopen, Option.map_eq_none_iff, ih, hrun]
  | cons s c rest harrow ih =>
    rw [piecesFrom_cons harrow, Scan.run]
    cases hstep : s.step c with
    | none => simp
    | some t => simp only [Option.bind_some, Option.map_eq_none_iff, ih t hstep]

/-- A text cannot be split if and only if its brackets and quotes are out of balance. -/
theorem pieces?_eq_none_iff {cs : List Char} : pieces? cs = none ↔ Unbalanced cs := by
  rw [pieces?, piecesFrom_eq_none_iff, Unbalanced]
  -- A bracket closes too much on the way, or the scan comes to the end, which may be open.
  cases hrun : Scan.start.run cs with
  | none =>
    obtain ⟨before, c, after, t, hcs, ht, hnone⟩ := Scan.run_eq_none_iff.1 hrun
    obtain ⟨hstring, hdepth, hc⟩ := Scan.step_eq_none_iff.1 hnone
    refine iff_of_true (fun _ hnot => ?_) (.inr ⟨before, c, after, t, hcs, ht, hstring, hdepth, hc⟩)
    cases hnot
  | some s =>
    have hthrough : ¬∃ before c after t, cs = before ++ c :: after ∧
        Scan.start.run before = some t ∧ t.inString = false ∧ t.depth = 0 ∧
          (c = '\x7d' ∨ c = ']') := by
      rintro ⟨before, c, after, t, hcs, ht, hclose⟩
      have hnone := Scan.run_eq_none_iff.2
        ⟨before, c, after, t, hcs, ht, Scan.step_eq_none_iff.2 hclose⟩
      rw [hrun] at hnone
      cases hnone
    rw [or_iff_left hthrough]
    simp only [Option.some.injEq, forall_eq', exists_eq_left', Scan.isOpen, Bool.and_eq_false_iff,
      beq_eq_false_iff_ne, Bool.not_eq_false']
    exact or_comm

/-! ## Pieces -/

theorem pushPiece_append (c : Char) {ps : List (List Char)} (h : ps ≠ [])
    (qs : List (List Char)) : pushPiece c (ps ++ qs) = pushPiece c ps ++ qs := by
  cases ps with
  | nil => exact absurd rfl h
  | cons p ps => rfl

/-- Behind an arrow a text is split as if it stood alone. -/
theorem piecesFrom_append_arrow {s : Scan} {a b : List Char} {ps : List (List Char)}
    (hclear : s.Clear) (h : piecesFrom s a = some ps) :
    piecesFrom s (a ++ '-' :: '>' :: b) = (pieces? b).map (ps ++ ·) := by
  induction s, a using split_induction generalizing ps with
  | nil s =>
    rw [piecesFrom_nil] at h
    split at h
    · rename_i hopen
      cases h
      rw [List.nil_append, piecesFrom_arrow hopen, hclear.eq_start hopen]
      rfl
    · cases h
  | arrow s rest hopen ih =>
    rw [piecesFrom_arrow hopen] at h
    obtain ⟨qs, hqs, rfl⟩ := Option.map_eq_some_iff.1 h
    rw [List.cons_append, List.cons_append, piecesFrom_arrow hopen, ih hclear hqs,
      Option.map_map]
    rfl
  | cons s c rest harrow ih =>
    rw [piecesFrom_cons harrow] at h
    obtain ⟨t, ht, h⟩ := Option.bind_eq_some_iff.1 h
    obtain ⟨qs, hqs, rfl⟩ := Option.map_eq_some_iff.1 h
    -- No arrow arises at the seam, as what is appended does not start with the point of one.
    have harrow' : ¬(c = '-' ∧ (rest ++ '-' :: '>' :: b).head? = some '>' ∧ s.isOpen = true) := by
      rintro ⟨hc, hhead, hopen⟩
      cases rest with
      | nil => exact absurd (Option.some.inj hhead) (by decide)
      | cons d rest => exact harrow ⟨hc, hhead, hopen⟩
    rw [List.cons_append, piecesFrom_cons harrow', ht, Option.bind_some,
      ih t ht (hclear.step ht) hqs, Option.map_map]
    congr 1
    funext more
    exact pushPiece_append c (joinArrows_of_piecesFrom hqs).1 more

/-- The pieces of two texts with an arrow between them are those of the texts. -/
theorem pieces?_append_arrow {a b : List Char} {ps : List (List Char)} (h : pieces? a = some ps) :
    pieces? (a ++ '-' :: '>' :: b) = (pieces? b).map (ps ++ ·) :=
  piecesFrom_append_arrow Scan.clear_start h

/-- The first piece holds no arrow for the scan that it starts in, and neither does any other. -/
theorem pieces_of_piecesFrom {s : Scan} {cs p : List Char} {ps : List (List Char)}
    (hclear : s.Clear) (h : piecesFrom s cs = some (p :: ps)) :
    piecesFrom s p = some [p] ∧ ∀ q ∈ ps, pieces? q = some [q] := by
  induction s, cs using split_induction generalizing p ps with
  | nil s =>
    have hnil : p = [] ∧ ps = [] := by
      rw [piecesFrom_nil] at h
      split at h
      · cases h
        exact ⟨rfl, rfl⟩
      · cases h
    obtain ⟨rfl, rfl⟩ := hnil
    exact ⟨h, nofun⟩
  | arrow s rest hopen ih =>
    rw [piecesFrom_arrow hopen] at h
    obtain ⟨qs, hqs, hcons⟩ := Option.map_eq_some_iff.1 h
    obtain ⟨rfl, rfl⟩ := List.cons.inj hcons
    refine ⟨by rw [piecesFrom_nil, if_pos hopen], ?_⟩
    cases qs with
    | nil => exact nofun
    | cons q qs =>
      obtain ⟨hq, hrest⟩ := ih hclear hqs
      rw [hclear.eq_start hopen] at hq
      exact List.forall_mem_cons.2 ⟨hq, hrest⟩
  | cons s c rest harrow ih =>
    rw [piecesFrom_cons harrow] at h
    obtain ⟨t, ht, h⟩ := Option.bind_eq_some_iff.1 h
    obtain ⟨qs, hqs, hcons⟩ := Option.map_eq_some_iff.1 h
    obtain ⟨hne, hjoin⟩ := joinArrows_of_piecesFrom hqs
    cases qs with
    | nil => exact absurd rfl hne
    | cons q qs =>
      obtain ⟨rfl, rfl⟩ := List.cons.inj hcons
      obtain ⟨hq, hrest⟩ := ih t ht (hclear.step ht) hqs
      refine ⟨?_, hrest⟩
      -- What follows the character in its piece follows it in the text.
      have harrow' : ¬(c = '-' ∧ q.head? = some '>' ∧ s.isOpen = true) := by
        rintro ⟨hc, hhead, hopen⟩
        obtain ⟨q, rfl⟩ := List.head?_eq_some_iff.1 hhead
        refine harrow ⟨hc, ?_, hopen⟩
        rw [← hjoin]
        cases qs <;> rfl
      rw [piecesFrom_cons harrow', ht, Option.bind_some, hq]
      rfl

/-- A piece is one piece. -/
theorem pieces?_of_mem {cs : List Char} {ps : List (List Char)} (h : pieces? cs = some ps) :
    ∀ p ∈ ps, pieces? p = some [p] := by
  cases ps with
  | nil => exact nofun
  | cons p ps =>
    obtain ⟨hp, hps⟩ := pieces_of_piecesFrom Scan.clear_start h
    exact List.forall_mem_cons.2 ⟨hp, hps⟩

/-- Pieces with arrows between them are split into these pieces. -/
theorem pieces?_join {ps : List (List Char)} (hne : ps ≠ [])
    (h : ∀ p ∈ ps, pieces? p = some [p]) : pieces? (joinArrows ps) = some ps := by
  induction ps with
  | nil => exact absurd rfl hne
  | cons p ps ih =>
    obtain ⟨hp, hps⟩ := List.forall_mem_cons.1 h
    cases ps with
    | nil => exact hp
    | cons q ps =>
      rw [joinArrows, pieces?_append_arrow hp, ih (List.cons_ne_nil q ps) hps]
      rfl

/-- So are the first pieces of a text. -/
theorem pieces?_take {cs : List Char} {ps : List (List Char)} (h : pieces? cs = some ps) {k : Nat}
    (hk : 0 < k) : pieces? (joinArrows (ps.take k)) = some (ps.take k) := by
  refine pieces?_join ?_ fun p hp => pieces?_of_mem h p (List.mem_of_mem_take hp)
  rw [ne_eq, List.take_eq_nil_iff, not_or]
  exact ⟨Nat.ne_of_gt hk, (joinArrows_of_pieces? h).1⟩

/-! ## Blanks at the ends -/

theorem passes_of_blank {ws : List Char} (h : Blank ws) (n : Nat) :
    Scan.Passes (.inside n) ws (.inside n) :=
  .of_plain_of_ne (fun c hc => Scan.plain_of_test rfl (h c hc)) n

/-- Blanks in front of a text go to the front of its first piece. -/
theorem pieces?_blank_append {ws : List Char} (h : Blank ws) (cs : List Char) :
    pieces? (ws ++ cs) = (pieces? cs).map (pushText ws) := passes_of_blank h 0 cs

/-- Blanks do not lead out of a string or a bracket. -/
theorem isOpen_of_run_blank {s t : Scan} {ws : List Char} (h : Blank ws)
    (hrun : s.run ws = some t) : t.isOpen = s.isOpen := by
  induction ws generalizing s with
  | nil =>
    cases hrun
    rfl
  | cons c ws ih =>
    obtain ⟨hc, hws⟩ := List.forall_mem_cons.1 h
    obtain ⟨u, hu, hrun⟩ := Option.bind_eq_some_iff.1 hrun
    rw [ih hws hrun]
    obtain ⟨hplain, -⟩ := Scan.plain_of_test (p := isBlank) rfl hc
    by_cases hopen : s.isOpen = true
    · rw [Scan.step_of_isOpen hopen hplain] at hu
      cases hu
      rfl
    · obtain ⟨hquote, hbrace, hbracket, hbrace', hbracket'⟩ := hplain
      simp only [Scan.step, hquote, hbrace, hbracket, hbrace', hbracket', or_self, ↓reduceIte] at hu
      unfold Scan.isOpen at *
      grind

theorem pieces?_append_blank_eq_none {cs ws : List Char} (hws : Blank ws)
    (h : pieces? cs = none) : pieces? (cs ++ ws) = none := by
  rw [pieces?, piecesFrom_eq_none_iff] at h ⊢
  intro t ht
  rw [Scan.run_append] at ht
  obtain ⟨s, hs, ht⟩ := Option.bind_eq_some_iff.1 ht
  rw [isOpen_of_run_blank hws ht, h s hs]

/-- A text and the text with some blanks behind it. -/
def Trails (p q : List Char) : Prop := ∃ ws, Blank ws ∧ q = p ++ ws

theorem Trails.refl (p : List Char) : Trails p p := ⟨[], blank_nil, (List.append_nil p).symm⟩

theorem Trails.cons {p q : List Char} (h : Trails p q) (c : Char) : Trails (c :: p) (c :: q) := by
  obtain ⟨ws, hws, rfl⟩ := h
  exact ⟨ws, hws, rfl⟩

theorem Trails.trim_eq {p q : List Char} (h : Trails p q) : trim p = trim q := by
  obtain ⟨ws, hws, rfl⟩ := h
  exact (trim_append_right hws p).symm

/-- Blanks behind a text go behind its pieces. -/
theorem exists_piecesFrom_append_blank {s : Scan} {cs ws : List Char} {ps : List (List Char)}
    (hws : Blank ws) (h : piecesFrom s cs = some ps) :
    ∃ qs, piecesFrom s (cs ++ ws) = some qs ∧ List.Forall₂ Trails ps qs := by
  induction s, cs using split_induction generalizing ps with
  | nil s =>
    rw [piecesFrom_nil] at h
    split at h
    · rename_i hopen
      cases h
      have hstays : ∀ c ∈ ws, s.step c = some s ∧ (c ≠ '-' ∨ s.isOpen = false) := fun c hc => by
        obtain ⟨hplain, hne⟩ := Scan.plain_of_test (p := isBlank) rfl (hws c hc)
        exact ⟨Scan.step_of_isOpen hopen hplain, .inl hne⟩
      have hpasses := Scan.Passes.of_stays hstays []
      rw [List.append_nil, piecesFrom_nil, if_pos hopen, Option.map_some, pushText_cons,
        List.append_nil] at hpasses
      exact ⟨[ws], hpasses, .cons ⟨ws, hws, rfl⟩ .nil⟩
    · cases h
  | arrow s rest hopen ih =>
    rw [piecesFrom_arrow hopen] at h
    obtain ⟨ps, hps, rfl⟩ := Option.map_eq_some_iff.1 h
    obtain ⟨qs, hqs, htrails⟩ := ih hps
    refine ⟨[] :: qs, ?_, .cons (.refl []) htrails⟩
    rw [List.cons_append, List.cons_append, piecesFrom_arrow hopen, hqs, Option.map_some]
  | cons s c rest harrow ih =>
    rw [piecesFrom_cons harrow] at h
    obtain ⟨t, ht, h⟩ := Option.bind_eq_some_iff.1 h
    obtain ⟨ps, hps, rfl⟩ := Option.map_eq_some_iff.1 h
    obtain ⟨qs, hqs, htrails⟩ := ih t ht hps
    -- No arrow arises at the seam, as a blank is not the point of one.
    have harrow' : ¬(c = '-' ∧ (rest ++ ws).head? = some '>' ∧ s.isOpen = true) := by
      rintro ⟨hc, hhead, hopen⟩
      cases rest with
      | nil => exact absurd (hws.endsWord _ hhead) (by decide)
      | cons d rest => exact harrow ⟨hc, hhead, hopen⟩
    refine ⟨pushPiece c qs, ?_, ?_⟩
    · rw [List.cons_append, piecesFrom_cons harrow', ht, Option.bind_some, hqs, Option.map_some]
    · cases htrails with
      | nil => exact absurd rfl (joinArrows_of_piecesFrom hps).1
      | cons hfirst hrest => exact .cons (hfirst.cons c) hrest

end ActionTree
