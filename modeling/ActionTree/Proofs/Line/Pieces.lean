import ActionTree.Line.Split
import Mathlib.Data.List.Forall2

/-!
# Texts that hold no arrow

Reading a line one character at a time puts each character in front of the first piece behind it,
and an arrow in an open scan starts a new piece. A text passes from one scan to another if the
pieces behind it are those of the rest with the text in front: no arrow in it separates anything.
What passes can be put together, and pieces that pass are those of their join.

* `piecesFrom_cons`, `piecesFrom_arrow`: the equations of the split.
* `Scan.Passes`: no arrow of a text separates.
* `Scan.Passes.of_plain`, `Scan.Passes.quoted_cons`: texts within brackets and within a string.
* `split_induction`: induction along the split of a text.
* `joinArrows_of_pieces?`, `pieces?_of_passes`: the pieces of a text make up the text.
-/

namespace ActionTree

/-- A text put in front of the first piece. -/
def pushText (text : List Char) (ps : List (List Char)) : List (List Char) :=
  text.foldr pushPiece ps

@[simp] theorem pushText_nil (ps : List (List Char)) : pushText [] ps = ps := rfl

theorem pushText_append (a b : List Char) (ps : List (List Char)) :
    pushText (a ++ b) ps = pushText a (pushText b ps) := List.foldr_append

theorem pushText_cons (text p : List Char) (ps : List (List Char)) :
    pushText text (p :: ps) = (text ++ p) :: ps := by
  induction text with
  | nil => rfl
  | cons c text ih =>
    rw [show c :: text = [c] ++ text from rfl, pushText_append, ih]
    rfl

/-! ## The split -/

/-- An arrow in an open scan ends a piece. -/
theorem piecesFrom_arrow {s : Scan} (h : s.isOpen = true) (rest : List Char) :
    piecesFrom s ('-' :: '>' :: rest) = (piecesFrom s rest).map ([] :: ·) := by
  simp [piecesFrom, h]

/-- Any other character belongs to the piece behind it. -/
theorem piecesFrom_cons {s : Scan} {c : Char} {rest : List Char}
    (h : ¬(c = '-' ∧ rest.head? = some '>' ∧ s.isOpen = true)) :
    piecesFrom s (c :: rest) =
      (s.step c).bind fun t => (piecesFrom t rest).map (pushPiece c) := by
  cases rest with
  | nil =>
    cases hstep : s.step c with
    | none => simp [piecesFrom, hstep]
    | some t =>
      by_cases hopen : t.isOpen = true <;> simp [piecesFrom, hstep, hopen, pushPiece]
  | cons d rest =>
    rw [piecesFrom, if_neg (by simpa using h)]
    cases s.step c <;> rfl

/-- A split goes on behind an arrow in an open scan, and otherwise behind one character. -/
@[elab_as_elim]
theorem split_induction {motive : Scan → List Char → Prop} (nil : ∀ s, motive s [])
    (arrow : ∀ s rest, s.isOpen = true → motive s rest → motive s ('-' :: '>' :: rest))
    (cons : ∀ s c rest, ¬(c = '-' ∧ rest.head? = some '>' ∧ s.isOpen = true) →
      (∀ t, s.step c = some t → motive t rest) → motive s (c :: rest)) (s : Scan)
    (cs : List Char) : motive s cs := by
  induction hlength : cs.length using Nat.strongRecOn generalizing s cs with
  | ind k ih =>
    cases cs with
    | nil => exact nil s
    | cons c rest =>
      rw [List.length_cons] at hlength
      by_cases harrow : c = '-' ∧ rest.head? = some '>' ∧ s.isOpen = true
      · obtain ⟨rfl, hhead, hopen⟩ := harrow
        obtain ⟨rest, rfl⟩ := List.head?_eq_some_iff.1 hhead
        rw [List.length_cons] at hlength
        exact arrow s rest hopen (ih rest.length (by omega) s rest rfl)
      · exact cons s c rest harrow fun t _ => ih rest.length (by omega) t rest rfl

/-- The pieces of a text with arrows between them are the text. -/
theorem joinArrows_of_piecesFrom {s : Scan} {cs : List Char} {ps : List (List Char)}
    (h : piecesFrom s cs = some ps) : ps ≠ [] ∧ joinArrows ps = cs := by
  induction s, cs using split_induction generalizing ps with
  | nil s =>
    rw [piecesFrom] at h
    split at h <;> cases h
    exact ⟨by simp, rfl⟩
  | arrow s rest hopen ih =>
    rw [piecesFrom_arrow hopen, Option.map_eq_some_iff] at h
    obtain ⟨qs, hqs, rfl⟩ := h
    obtain ⟨hne, hjoin⟩ := ih hqs
    cases qs with
    | nil => exact absurd rfl hne
    | cons q qs => exact ⟨by simp, by rw [joinArrows, hjoin, List.nil_append]⟩
  | cons s c rest harrow ih =>
    rw [piecesFrom_cons harrow, Option.bind_eq_some_iff] at h
    obtain ⟨t, ht, h⟩ := h
    obtain ⟨qs, hqs, rfl⟩ := Option.map_eq_some_iff.1 h
    obtain ⟨hne, hjoin⟩ := ih t ht hqs
    -- The character goes to the first piece, which may be the last one too.
    rcases qs with _ | ⟨q, _ | ⟨q', qs⟩⟩
    · exact absurd rfl hne
    · exact ⟨by simp [pushPiece], by rw [pushPiece, joinArrows, ← hjoin, joinArrows]⟩
    · refine ⟨by simp [pushPiece], ?_⟩
      rw [pushPiece, joinArrows, ← hjoin, joinArrows, List.cons_append]

/-- The pieces of a text with arrows between them are the text. -/
theorem joinArrows_of_pieces? {cs : List Char} {ps : List (List Char)}
    (h : pieces? cs = some ps) : ps ≠ [] ∧ joinArrows ps = cs := joinArrows_of_piecesFrom h

/-! ## Texts that pass -/

namespace Scan

/-- No arrow of a text separates when the text leads from one scan to another. -/
def Passes (s : Scan) (text : List Char) (t : Scan) : Prop :=
  ∀ rest, piecesFrom s (text ++ rest) = (piecesFrom t rest).map (pushText text)

variable {s t u : Scan} {a b : List Char} {c : Char}

theorem Passes.nil (s : Scan) : Passes s [] s := by
  intro rest
  rw [List.nil_append, show pushText [] = id from rfl, Option.map_id, id]

theorem Passes.append (ha : Passes s a t) (hb : Passes t b u) : Passes s (a ++ b) u := by
  intro rest
  rw [List.append_assoc, ha, hb, Option.map_map]
  congr 1
  funext ps
  exact (pushText_append a b ps).symm

/-- A character other than the first of an arrow, or in a scan that is not open. -/
theorem Passes.char (hstep : s.step c = some t) (h : c ≠ '-' ∨ s.isOpen = false) :
    Passes s [c] t := by
  intro rest
  rw [List.singleton_append, piecesFrom_cons, hstep]
  · rfl
  · rintro ⟨hc, -, hopen⟩
    rcases h with h | h
    · exact h hc
    · rw [h] at hopen
      cases hopen

theorem Passes.cons (hstep : s.step c = some t) (h : c ≠ '-' ∨ s.isOpen = false)
    (ha : Passes t a u) : Passes s (c :: a) u := (Passes.char hstep h).append ha

/-- A text of characters that the scan stays at. -/
theorem Passes.of_stays (h : ∀ c ∈ a, s.step c = some s ∧ (c ≠ '-' ∨ s.isOpen = false)) :
    Passes s a s := by
  induction a with
  | nil => exact .nil s
  | cons c a ih =>
    obtain ⟨hstep, hc⟩ := h c (by simp)
    exact .cons hstep hc (ih fun d hd => h d (List.mem_cons_of_mem _ hd))

/-- The scan in some open brackets, outside of every string. -/
def inside (depth : Nat) : Scan := ⟨depth, false, false⟩

theorem start_eq : start = inside 0 := rfl

theorem isOpen_inside_succ (n : Nat) : (inside (n + 1)).isOpen = false := rfl

/-- A character that opens, closes and quotes nothing. -/
def Plain (c : Char) : Prop :=
  c ≠ '"' ∧ c ≠ '\x7b' ∧ c ≠ '[' ∧ c ≠ '\x7d' ∧ c ≠ ']'

instance (c : Char) : Decidable (Plain c) := inferInstanceAs (Decidable (_ ∧ _))

/-- A character is plain and starts no arrow if it passes a test that those characters fail. -/
theorem plain_of_test {p : Char → Bool}
    (hp : ['"', '\x7b', '[', '\x7d', ']', '-'].all (!p ·) = true) (h : p c = true) :
    Plain c ∧ c ≠ '-' := by
  simp only [List.all_cons, List.all_nil, Bool.and_true, Bool.and_eq_true, Bool.not_eq_true']
    at hp
  obtain ⟨hquote, hbrace, hbracket, hbrace', hbracket', harrow⟩ := hp
  have hne : ∀ d, p d = false → c ≠ d := by
    rintro d hd rfl
    exact absurd h (by simp [hd])
  exact ⟨⟨hne _ hquote, hne _ hbrace, hne _ hbracket, hne _ hbrace', hne _ hbracket'⟩,
    hne _ harrow⟩

theorem step_of_plain (h : Plain c) (n : Nat) : (inside n).step c = some (inside n) := by
  obtain ⟨hquote, hbrace, hbracket, hbrace', hbracket'⟩ := h
  simp [step, inside, hquote, hbrace, hbracket, hbrace', hbracket']

/-- Within brackets an arrow separates nothing. -/
theorem Passes.of_plain (h : ∀ c ∈ a, Plain c) (n : Nat) :
    Passes (inside (n + 1)) a (inside (n + 1)) :=
  .of_stays fun c hc => ⟨step_of_plain (h c hc) _, .inr (isOpen_inside_succ n)⟩

/-- The scan in a string within some open brackets. -/
def quoted (depth : Nat) : Scan := ⟨depth, true, false⟩

/-- In a string every character but a quote and a backslash is text. -/
theorem Passes.quoted_cons {n : Nat} (hquote : c ≠ '"') (hslash : c ≠ '\\')
    (ha : Passes (quoted n) a u) : Passes (quoted n) (c :: a) u :=
  .cons (by simp [step, quoted, hquote, hslash]) (.inr (by simp [isOpen, quoted])) ha

/-- In a string the character behind a backslash is text. -/
theorem Passes.quoted_escape {n : Nat} (c : Char) (ha : Passes (quoted n) a u) :
    Passes (quoted n) ('\\' :: c :: a) u := by
  refine .cons (t := ⟨n, true, true⟩) rfl (.inr (by simp [isOpen, quoted])) ?_
  exact .cons (t := quoted n) rfl (.inr (by simp [isOpen])) ha

/-- A quote ends a string. -/
theorem Passes.quoted_end (n : Nat) : Passes (quoted n) ['"'] (inside n) :=
  .char rfl (.inl (by decide))

/-- Without brackets, quotes and the first character of an arrow nothing separates. -/
theorem Passes.of_plain_of_ne (h : ∀ c ∈ a, Plain c ∧ c ≠ '-') (n : Nat) :
    Passes (inside n) a (inside n) :=
  .of_stays fun c hc => ⟨step_of_plain (h c hc).1 _, .inl (h c hc).2⟩

end Scan

/-- A text that passes is one piece. -/
theorem pieces?_of_passes {p : List Char} (h : Scan.Passes .start p .start) :
    pieces? p = some [p] := by
  have hnil := h []
  rw [List.append_nil] at hnil
  rw [pieces?, hnil]
  simp [piecesFrom, Scan.isOpen, Scan.start, pushText_cons]

end ActionTree
