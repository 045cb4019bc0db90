import ActionTree.Json.Reader
import ActionTree.Proofs.Line.Pieces
import Mathlib.Data.List.Basic
import Mathlib.Data.List.TakeDrop
import Mathlib.Data.List.TakeWhile

/-!
# The extent of a JSON token

What a reader takes off the front of a text it takes off every text that goes on in the same manner,
and no arrow in it separates a line: a string literal ends at the quote where the scan of a line
leaves its string, and neither a number nor a word has a bracket or a quote.

* `Reads`: a text is taken off whatever follows it.
* `exists_readString`: string literals.
* `exists_readNumeral`: number literals, in front of a text that `Stops` them.
* `exists_stripWord`, `exists_skipSpace`: words and blanks.
-/

namespace ActionTree.Json

open Scan

variable {α : Type}

/-- A reader takes a text off every text that goes on in some manner. -/
def Reads (read : List Char → Option (α × List Char)) (text : List Char) (a : α)
    (goesOn : List Char → Prop) : Prop :=
  ∀ rest, goesOn rest → read (text ++ rest) = some (a, rest)

/-! ## Blanks and words -/

/-- A text of JSON blanks. -/
def Space (cs : List Char) : Prop := ∀ c ∈ cs, isSpace c = true

theorem skipSpace_append {sp : List Char} (h : Space sp) (cs : List Char) :
    skipSpace (sp ++ cs) = skipSpace cs := List.dropWhile_append_of_pos h

/-- A text is its blanks and what is left without them. -/
theorem exists_skipSpace (cs : List Char) : ∃ sp, Space sp ∧ cs = sp ++ skipSpace cs :=
  ⟨cs.takeWhile isSpace, fun _ => List.mem_takeWhile_imp, List.takeWhile_append_dropWhile.symm⟩

theorem skipSpace_cons {c : Char} (h : isSpace c = false) (cs : List Char) :
    skipSpace (c :: cs) = c :: cs := List.dropWhile_cons_of_neg (by simp [h])

theorem Space.passes {sp : List Char} (h : Space sp) (n : Nat) :
    Passes (inside n) sp (inside n) :=
  .of_plain_of_ne (fun c hc => plain_of_test rfl (h c hc)) n

theorem exists_stripWord {w cs out : List Char} (h : stripWord w cs = some out) :
    cs = w ++ out := by
  induction w generalizing cs with
  | nil =>
    cases h
    rfl
  | cons c w ih =>
    cases cs with
    | nil => cases h
    | cons d cs =>
      rw [stripWord] at h
      split at h
      · rename_i hcd
        rw [hcd, ih h, List.cons_append]
      · cases h

theorem stripWord_append (w rest : List Char) : stripWord w (w ++ rest) = some rest := by
  induction w with
  | nil => rfl
  | cons c w ih => rw [List.cons_append, stripWord, if_pos rfl, ih]

/-! ## Strings -/

theorem ne_of_hexValue? {c : Char} {n : Nat} (h : hexValue? c = some n) : c ≠ '"' ∧ c ≠ '\\' := by
  constructor <;>
  · rintro rfl
    cases h

/-- An escape of a UTF-16 unit, which is one character or half of a pair. -/
theorem readPieces_unit (a b c d : Char) (rest : List Char) :
    readPieces ('\\' :: 'u' :: a :: b :: c :: d :: rest) =
      (unit? a b c d).bind fun n => (readPieces rest).map fun r =>
        ((if isHighUnit n || isLowUnit n then .half n else .char (Char.ofNat n)) :: r.1, r.2) := by
  rw [readPieces]
  cases unit? a b c d with
  | none => rfl
  | some n => cases readPieces rest <;> rfl

theorem readPieces_escape {e : Char} (he : e ≠ 'u') (rest : List Char) :
    readPieces ('\\' :: e :: rest) =
      (shortEscape? e).bind fun c => (readPieces rest).map fun r => (.char c :: r.1, r.2) := by
  rw [readPieces]
  · cases shortEscape? e with
    | none => rfl
    | some c => cases readPieces rest <;> rfl
  · exact fun _ _ _ _ _ h => absurd h he

theorem readPieces_char {c : Char} (hquote : c ≠ '"') (hslash : c ≠ '\\') (rest : List Char) :
    readPieces (c :: rest) =
      if c.toNat < 32 then none
      else (readPieces rest).map fun r => (.char c :: r.1, r.2) := by
  rw [readPieces]
  · simp only [Bool.or_eq_true, decide_eq_true_eq, beq_iff_eq, hslash, or_false]
    cases readPieces rest <;> rfl
  · exact hquote
  · exact fun _ _ _ _ _ h => absurd h hslash
  · exact fun _ _ h => absurd h hslash

/-- Without four more characters there is no escape of a unit. -/
theorem readPieces_u {rest : List Char}
    (h : ∀ a b c d more, rest = a :: b :: c :: d :: more → False) :
    readPieces ('\\' :: 'u' :: rest) = none := by
  rw [readPieces]
  · rfl
  · exact fun a b c d more _ hrest => h a b c d more hrest

/-- The pieces of a string end where the scan of a line leaves its string. -/
theorem exists_readPieces {cs out : List Char} {ps : List Piece}
    (h : readPieces cs = some (ps, out)) :
    ∃ text, cs = text ++ out ∧ (∀ n, Passes (quoted n) text (inside n)) ∧
      Reads readPieces text ps fun _ => True := by
  -- The calls of the reader are the steps of a scan inside of quotes, so their cases agree.
  induction cs using readPieces.induct generalizing ps with
  | case1 => cases h
  | case2 rest =>
    cases h
    exact ⟨['"'], rfl, fun n => .quoted_end n, fun _ _ => rfl⟩
  | case3 a b c d rest ih =>
    rw [readPieces_unit, Option.bind_eq_some_iff] at h
    obtain ⟨n, hunit, h⟩ := h
    obtain ⟨⟨qs, out'⟩, hrest, heq⟩ := Option.map_eq_some_iff.1 h
    cases heq
    obtain ⟨text, rfl, hpasses, hreads⟩ := ih hrest
    refine ⟨'\\' :: 'u' :: a :: b :: c :: d :: text, rfl, fun m => ?_, fun more _ => ?_⟩
    · -- The digits of the unit are neither quotes nor backslashes.
      simp only [unit?, Option.pure_def, Option.bind_eq_bind, Option.bind_eq_some_iff] at hunit
      obtain ⟨x, ha, y, hb, z, hc, v, hd, -⟩ := hunit
      obtain ⟨ha, ha'⟩ := ne_of_hexValue? ha
      obtain ⟨hb, hb'⟩ := ne_of_hexValue? hb
      obtain ⟨hc, hc'⟩ := ne_of_hexValue? hc
      obtain ⟨hd, hd'⟩ := ne_of_hexValue? hd
      exact .quoted_escape _ (.quoted_cons ha ha' (.quoted_cons hb hb' (.quoted_cons hc hc'
        (.quoted_cons hd hd' (hpasses m)))))
    · simp only [List.cons_append]
      rw [readPieces_unit, hunit, hreads more trivial]
      rfl
  | case4 e rest hnot ih =>
    -- Without four characters behind it `u` is no escape, so the escape is a short one.
    by_cases he : e = 'u'
    · subst he
      rw [readPieces_u fun a b c d more => hnot a b c d more rfl] at h
      cases h
    rw [readPieces_escape he, Option.bind_eq_some_iff] at h
    obtain ⟨c, hshort, h⟩ := h
    obtain ⟨⟨qs, out'⟩, hrest, heq⟩ := Option.map_eq_some_iff.1 h
    cases heq
    obtain ⟨text, rfl, hpasses, hreads⟩ := ih hrest
    refine ⟨'\\' :: e :: text, rfl, fun m => .quoted_escape e (hpasses m), fun more _ => ?_⟩
    simp only [List.cons_append]
    rw [readPieces_escape he, hshort, hreads more trivial]
    rfl
  | case5 c rest hquote hunit hescape hbad =>
    rw [readPieces, if_pos hbad] at h
    · cases h
    · exact hquote
    · exact hunit
    · exact hescape
  | case6 c rest hquote hunit hescape hgood ih =>
    simp only [Bool.or_eq_true, decide_eq_true_eq, beq_iff_eq, not_or] at hgood
    obtain ⟨hcontrol, hslash⟩ := hgood
    rw [readPieces_char hquote hslash, if_neg hcontrol] at h
    obtain ⟨⟨qs, out'⟩, hrest, heq⟩ := Option.map_eq_some_iff.1 h
    cases heq
    obtain ⟨text, rfl, hpasses, hreads⟩ := ih hrest
    refine ⟨c :: text, rfl, fun m => .quoted_cons hquote hslash (hpasses m), fun more _ => ?_⟩
    rw [List.cons_append, readPieces_char hquote hslash, if_neg hcontrol, hreads more trivial]
    rfl

/-- A string literal ends where the scan of a line leaves its string. -/
theorem exists_readString {cs out : List Char} {s? : Option String}
    (h : readString cs = some (s?, out)) :
    ∃ text, cs = text ++ out ∧ (∀ n, Passes (quoted n) text (inside n)) ∧
      Reads readString text s? fun _ => True := by
  simp only [readString, Option.pure_def, Option.bind_eq_bind, Option.bind_eq_some_iff,
    Option.some.injEq, Prod.mk.injEq] at h
  obtain ⟨⟨ps, rest⟩, hpieces, rfl, rfl⟩ := h
  obtain ⟨text, rfl, hpasses, hreads⟩ := exists_readPieces hpieces
  refine ⟨text, rfl, hpasses, fun more _ => ?_⟩
  rw [readString, hreads more trivial]
  rfl

/-! ## Numbers -/

/-- A text that goes on with no digit. -/
def StopsDigits (cs : List Char) : Prop := ∀ c, cs.head? = some c → c.isDigit = false

/-- A text that goes on with neither a digit nor a fraction. -/
def StopsWhole (cs : List Char) : Prop :=
  ∀ c, cs.head? = some c → c.isDigit = false ∧ c ≠ '.'

/-- A text that goes on with no part of a number. -/
def Stops (cs : List Char) : Prop :=
  ∀ c, cs.head? = some c → c.isDigit = false ∧ c ≠ '.' ∧ c ≠ 'e' ∧ c ≠ 'E'

/-- A character of a number. -/
def Numeric (c : Char) : Prop :=
  c.isDigit = true ∨ c = '.' ∨ c = 'e' ∨ c = 'E' ∨ c = '+' ∨ c = '-'

theorem Numeric.plain {c : Char} (h : Numeric c) : Plain c := by
  rcases h with h | rfl | rfl | rfl | rfl | rfl
  · exact (plain_of_test rfl h).1
  all_goals decide

theorem spanDigits_append {ds rest : List Char} (hds : ∀ c ∈ ds, c.isDigit = true)
    (hrest : StopsDigits rest) : spanDigits (ds ++ rest) = (ds, rest) := by
  have htake : rest.takeWhile (·.isDigit) = [] ∧ rest.dropWhile (·.isDigit) = rest := by
    cases rest with
    | nil => exact ⟨rfl, rfl⟩
    | cons c rest =>
      have hc := hrest c rfl
      exact ⟨List.takeWhile_cons_of_neg (by simp [hc]), List.dropWhile_cons_of_neg (by simp [hc])⟩
  rw [spanDigits, List.span_eq_takeWhile_dropWhile, List.takeWhile_append_of_pos hds,
    List.dropWhile_append_of_pos hds, htake.1, htake.2, List.append_nil]

/-- A text is a run of digits and a rest that goes on with no digit. -/
theorem exists_spanDigits (cs : List Char) :
    ∃ ds rest, cs = ds ++ rest ∧ spanDigits cs = (ds, rest) ∧
      (∀ c ∈ ds, c.isDigit = true) ∧ StopsDigits rest := by
  refine ⟨cs.takeWhile (·.isDigit), cs.dropWhile (·.isDigit),
    List.takeWhile_append_dropWhile.symm, List.span_eq_takeWhile_dropWhile .., ?_, ?_⟩
  · exact fun _ hc => List.mem_takeWhile_imp (p := Char.isDigit) hc
  intro c hc
  have hnot := List.head?_dropWhile_not (·.isDigit) cs
  rw [hc] at hnot
  exact hnot

theorem numeric_of_digits {ds : List Char} (h : ∀ c ∈ ds, c.isDigit = true) :
    ∀ c ∈ ds, Numeric c := fun c hc => .inl (h c hc)

theorem exists_readFraction {cs out : List Char} {f : Option (List Char)}
    (h : readFraction cs = some (f, out)) :
    ∃ text, cs = text ++ out ∧ (∀ c ∈ text, Numeric c) ∧ (text = [] ∨ text.head? = some '.') ∧
      Reads readFraction text f StopsWhole := by
  unfold readFraction at h
  split at h
  · rename_i cs
    obtain ⟨ds, rest, rfl, hspan, hdigits, hstop⟩ := exists_spanDigits cs
    simp only [hspan, List.isEmpty_iff] at h
    split at h
    · cases h
    rename_i hne
    cases h
    refine ⟨'.' :: ds, rfl, ?_, .inr rfl, fun more hmore => ?_⟩
    · exact List.forall_mem_cons.2 ⟨.inr (.inl rfl), numeric_of_digits hdigits⟩
    · have hspan' := spanDigits_append hdigits fun c hc => (hmore c hc).1
      simp only [List.cons_append, readFraction, hspan', List.isEmpty_iff, if_neg hne]
  · cases h
    refine ⟨[], rfl, by simp, .inl rfl, fun more hmore => ?_⟩
    rw [List.nil_append, readFraction]
    rintro cs rfl
    exact (hmore '.' rfl).2 rfl

theorem exists_readExponentDigits {minus : Bool} {cs out : List Char}
    {x : Option (Bool × List Char)} (h : readExponentDigits minus cs = some (x, out)) :
    ∃ ds, ds ≠ [] ∧ cs = ds ++ out ∧ (∀ c ∈ ds, c.isDigit = true) ∧
      Reads (readExponentDigits minus) ds x StopsDigits := by
  obtain ⟨ds, rest, rfl, hspan, hdigits, hstop⟩ := exists_spanDigits cs
  simp only [readExponentDigits, hspan, List.isEmpty_iff] at h
  split at h
  · cases h
  rename_i hne
  cases h
  refine ⟨ds, hne, rfl, hdigits, fun more hmore => ?_⟩
  simp only [readExponentDigits, spanDigits_append hdigits hmore, List.isEmpty_iff, if_neg hne]

/-- Without an `e` there is no exponent. -/
theorem readExponent_of_stops {cs : List Char} (h : Stops cs) :
    readExponent cs = some (none, cs) := by
  cases cs with
  | nil => rfl
  | cons c cs =>
    obtain ⟨-, -, he, hE⟩ := h c rfl
    simp [readExponent, he, hE]

/-- Digits directly behind the `e`. -/
theorem readExponent_digits {c : Char} (hc : c = 'e' ∨ c = 'E') {ds : List Char} (hne : ds ≠ [])
    (hds : ∀ c ∈ ds, c.isDigit = true) (rest : List Char) :
    readExponent (c :: (ds ++ rest)) = readExponentDigits false (ds ++ rest) := by
  cases ds with
  | nil => exact absurd rfl hne
  | cons d ds =>
    have hd := hds d (by simp)
    rw [readExponent, if_pos hc]
    all_goals
      intro rest h
      cases h
      exact absurd hd (by decide)

theorem exists_readExponent {cs out : List Char} {x : Option (Bool × List Char)}
    (h : readExponent cs = some (x, out)) :
    ∃ text, cs = text ++ out ∧ (∀ c ∈ text, Numeric c) ∧
      (text = [] ∨ text.head? = some 'e' ∨ text.head? = some 'E') ∧
      Reads readExponent text x Stops := by
  have hnone : Reads readExponent [] none Stops := fun _ => readExponent_of_stops
  cases cs with
  | nil =>
    cases h
    exact ⟨[], rfl, by simp, .inl rfl, hnone⟩
  | cons c cs =>
    rw [readExponent.eq_def] at h
    simp only at h
    split at h
    · rename_i hc
      have hnumeric : Numeric c := by
        rcases hc with rfl | rfl
        · exact .inr (.inr (.inl rfl))
        · exact .inr (.inr (.inr (.inl rfl)))
      have hhead : some c = some 'e' ∨ some c = some 'E' := by simpa using hc
      -- With a sign or without one, the digits end where the exponent ends.
      have hstop : ∀ more, Stops more → StopsDigits more := fun _ hmore d hd => (hmore d hd).1
      split at h
      · obtain ⟨ds, -, rfl, hdigits, hreads⟩ := exists_readExponentDigits h
        refine ⟨c :: '+' :: ds, rfl, ?_, .inr hhead, fun more hmore => ?_⟩
        · exact List.forall_mem_cons.2 ⟨hnumeric, List.forall_mem_cons.2
            ⟨.inr (.inr (.inr (.inr (.inl rfl)))), numeric_of_digits hdigits⟩⟩
        · rw [List.cons_append, List.cons_append, readExponent, if_pos hc]
          exact hreads more (hstop more hmore)
      · obtain ⟨ds, -, rfl, hdigits, hreads⟩ := exists_readExponentDigits h
        refine ⟨c :: '-' :: ds, rfl, ?_, .inr hhead, fun more hmore => ?_⟩
        · exact List.forall_mem_cons.2 ⟨hnumeric, List.forall_mem_cons.2
            ⟨.inr (.inr (.inr (.inr (.inr rfl)))), numeric_of_digits hdigits⟩⟩
        · rw [List.cons_append, List.cons_append, readExponent, if_pos hc]
          exact hreads more (hstop more hmore)
      · obtain ⟨ds, hne, rfl, hdigits, hreads⟩ := exists_readExponentDigits h
        refine ⟨c :: ds, rfl, ?_, .inr hhead, fun more hmore => ?_⟩
        · exact List.forall_mem_cons.2 ⟨hnumeric, numeric_of_digits hdigits⟩
        · rw [List.cons_append, readExponent_digits hc hne hdigits]
          exact hreads more (hstop more hmore)
    · cases h
      exact ⟨[], rfl, by simp, .inl rfl, hnone⟩

theorem exists_readUnsigned {negative : Bool} {cs out : List Char} {l : Numeral}
    (h : readUnsigned negative cs = some (l, out)) :
    ∃ text, cs = text ++ out ∧ (∀ c ∈ text, Numeric c) ∧
      (∃ c, text.head? = some c ∧ c.isDigit = true) ∧
      Reads (readUnsigned negative) text l Stops := by
  obtain ⟨whole, rest, rfl, hspan, hdigits, hstop⟩ := exists_spanDigits cs
  simp only [readUnsigned, hspan, Option.pure_def, Option.bind_eq_bind] at h
  split at h
  · cases h
  rename_i hgood
  simp only [Option.bind_eq_some_iff, Option.some.injEq, Prod.mk.injEq] at h
  obtain ⟨⟨f, rest'⟩, hfraction, ⟨x, rest''⟩, hexponent, rfl, rfl⟩ := h
  obtain ⟨ftext, rfl, hfnumeric, hfhead, hfreads⟩ := exists_readFraction hfraction
  obtain ⟨xtext, rfl, hxnumeric, hxhead, hxreads⟩ := exists_readExponent hexponent
  have hwhole : whole ≠ [] := by
    rintro rfl
    exact hgood rfl
  -- What follows each part ends the part before it.
  have hstopWhole : ∀ more, Stops more → StopsWhole (xtext ++ more) := by
    intro more hmore c hc
    rcases hxhead with rfl | hhead | hhead
    · exact ⟨(hmore c hc).1, (hmore c hc).2.1⟩
    all_goals
      rw [List.head?_append, hhead] at hc
      cases hc
      decide
  have hstopDigits : ∀ more, Stops more → StopsDigits (ftext ++ (xtext ++ more)) := by
    intro more hmore c hc
    rcases hfhead with rfl | hhead
    · exact (hstopWhole more hmore c hc).1
    · rw [List.head?_append, hhead] at hc
      cases hc
      decide
  refine ⟨whole ++ (ftext ++ xtext), by simp, ?_, ?_, fun more hmore => ?_⟩
  · intro c hc
    rcases List.mem_append.1 hc with hc | hc
    · exact .inl (hdigits c hc)
    · exact (List.mem_append.1 hc).elim (hfnumeric c) (hxnumeric c)
  · cases whole with
    | nil => exact absurd rfl hwhole
    | cons c whole => exact ⟨c, rfl, hdigits c (by simp)⟩
  · rw [List.append_assoc, List.append_assoc]
    simp only [readUnsigned, spanDigits_append hdigits (hstopDigits more hmore),
      if_neg hgood, Option.pure_def, Option.bind_eq_bind]
    rw [hfreads _ (hstopWhole more hmore), Option.bind_some]
    simp only
    rw [hxreads more hmore]
    rfl

/-- A number literal has none of the characters that a line is scanned for. -/
theorem exists_readNumeral {cs out : List Char} {l : Numeral}
    (h : readNumeral cs = some (l, out)) :
    ∃ text, cs = text ++ out ∧ (∀ c ∈ text, Numeric c) ∧
      (∃ c, text.head? = some c ∧ (c = '-' ∨ c.isDigit = true)) ∧
      Reads readNumeral text l Stops := by
  unfold readNumeral at h
  split at h
  · obtain ⟨text, rfl, hnumeric, -, hreads⟩ := exists_readUnsigned h
    refine ⟨'-' :: text, rfl, ?_, ⟨'-', rfl, .inl rfl⟩, hreads⟩
    exact List.forall_mem_cons.2 ⟨.inr (.inr (.inr (.inr (.inr rfl)))), hnumeric⟩
  · obtain ⟨text, rfl, hnumeric, ⟨c, hhead, hdigit⟩, hreads⟩ := exists_readUnsigned h
    refine ⟨text, rfl, hnumeric, ⟨c, hhead, .inr hdigit⟩, fun more hmore => ?_⟩
    rw [readNumeral]
    · exact hreads more hmore
    · intro rest heq
      cases text with
      | nil => cases hhead
      | cons d text =>
        cases hhead
        cases heq
        exact absurd hdigit (by decide)

end ActionTree.Json
