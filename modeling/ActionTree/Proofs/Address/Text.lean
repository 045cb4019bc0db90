import ActionTree.Address.Basic
import ActionTree.Proofs.Text.Blank

/-!
# The texts of an address

The texts of an address are runs of digits with dots between them, one run for each segment. A
number has many runs, since it may have leading zeros, but a text has one address at most.

* `DigitRun`, `DottedText`, `AddressText`: the texts of a segment, of segments and of an address.
* `segment?_eq_some_iff`, `parseChars?_eq_some_iff`: these and no others are read.
* `Address.parse?_text`: the text that is written reads back.
* `AddressText.ne_nil`, `AddressText.solid`: such a text is a word.
-/

namespace ActionTree

/-- A run of digits that denotes a segment. -/
structure DigitRun (ds : List Char) (n : UInt32) : Prop where
  ne_nil : ds ≠ []
  digits : ∀ c ∈ ds, c.isDigit = true
  value : Text.number ds = n.toNat

/-- Runs of digits with dots between them, one for each segment. -/
inductive DottedText : List Char → List UInt32 → Prop
  | last {ds : List Char} {n : UInt32} (h : DigitRun ds n) : DottedText ds [n]
  | cons {ds rest : List Char} {n : UInt32} {ns : List UInt32} (h : DigitRun ds n)
      (hrest : DottedText rest ns) : DottedText (ds ++ '.' :: rest) (n :: ns)

/-- A text of an address. -/
def AddressText (cs : List Char) (a : Address) : Prop := DottedText cs a.segments

namespace Address

theorem segment?_eq_some_iff {ds : List Char} {n : UInt32} :
    segment? ds = some n ↔ DigitRun ds n := by
  simp only [segment?, Option.map_eq_some_iff, Text.natural?_eq_some_iff]
  constructor
  · rintro ⟨k, ⟨hne, hdigits, hbound, rfl⟩, rfl⟩
    exact ⟨hne, hdigits, (UInt32.toNat_ofNat_of_lt' hbound).symm⟩
  · rintro ⟨hne, hdigits, hvalue⟩
    exact ⟨n.toNat, ⟨hne, hdigits, n.toNat_lt_size, hvalue⟩, UInt32.ofNat_toNat⟩

/-- A segment in decimal denotes the segment. -/
theorem digitRun_digits (n : UInt32) : DigitRun (digits n.toNat) n where
  ne_nil := Nat.toDigits_ne_nil
  digits _ hc := Nat.isDigit_of_mem_toDigits (by decide) (by decide) hc
  value := Nat.ofDigitChars_toDigits (by decide) (by decide)

theorem ne_dot_of_isDigit {c : Char} (h : c.isDigit = true) : c ≠ '.' := by
  rintro rfl
  exact absurd h (by decide)

theorem splitDots_of_digits {ds : List Char} (h : ∀ c ∈ ds, c.isDigit = true) :
    splitDots ds = [ds] := by
  induction ds with
  | nil => rfl
  | cons c ds ih =>
    have hc : c ≠ '.' := ne_dot_of_isDigit (h c (by simp))
    rw [splitDots, if_neg hc, ih fun d hd => h d (List.mem_cons_of_mem _ hd)]

theorem splitDots_append {ds : List Char} (h : ∀ c ∈ ds, c.isDigit = true) (rest : List Char) :
    splitDots (ds ++ '.' :: rest) = ds :: splitDots rest := by
  induction ds with
  | nil => rw [List.nil_append, splitDots, if_pos rfl]
  | cons c ds ih =>
    have hc : c ≠ '.' := ne_dot_of_isDigit (h c (by simp))
    rw [List.cons_append, splitDots, if_neg hc, ih fun d hd => h d (List.mem_cons_of_mem _ hd)]

/-- A text by its first run: it is all of the text, or a dot is behind it. -/
theorem splitDots_cases (cs : List Char) :
    splitDots cs = [cs] ∨
      ∃ p rest, cs = p ++ '.' :: rest ∧ splitDots cs = p :: splitDots rest := by
  induction cs with
  | nil => exact .inl rfl
  | cons c cs ih =>
    rw [splitDots]
    split
    · rename_i hc
      exact .inr ⟨[], cs, by rw [hc, List.nil_append], rfl⟩
    rcases ih with h | ⟨p, rest, hcs, h⟩
    · exact .inl (by rw [h])
    · exact .inr ⟨c :: p, rest, by rw [hcs, List.cons_append], by rw [h]⟩

theorem mapM_segment?_eq_some_iff {cs : List Char} {ns : List UInt32} :
    (splitDots cs).mapM segment? = some ns ↔ DottedText cs ns := by
  constructor
  · intro h
    -- What is behind the first dot is shorter, but it is not the tail of the list.
    induction hlength : cs.length using Nat.strongRecOn generalizing cs ns with
    | ind k ih =>
      rcases splitDots_cases cs with hsplit | ⟨p, rest, rfl, hsplit⟩
      · rw [hsplit] at h
        simp only [List.mapM_cons, List.mapM_nil, Option.pure_def, Option.bind_eq_bind,
          Option.bind_eq_some_iff, Option.some.injEq] at h
        obtain ⟨n, hn, _, rfl, rfl⟩ := h
        exact .last (segment?_eq_some_iff.1 hn)
      · rw [hsplit] at h
        simp only [List.mapM_cons, Option.pure_def, Option.bind_eq_bind,
          Option.bind_eq_some_iff, Option.some.injEq] at h
        obtain ⟨n, hn, ns, hns, rfl⟩ := h
        refine .cons (segment?_eq_some_iff.1 hn) (ih rest.length ?_ hns rfl)
        rw [← hlength, List.length_append, List.length_cons]
        omega
  · intro h
    induction h with
    | last h =>
      rw [splitDots_of_digits h.digits]
      simp [segment?_eq_some_iff.2 h]
    | cons h _ ih =>
      rw [splitDots_append h.digits]
      simp [segment?_eq_some_iff.2 h, ih]

/-- The texts of an address are those that are read as it. -/
theorem parseChars?_eq_some_iff {cs : List Char} {a : Address} :
    parseChars? cs = some a ↔ AddressText cs a := by
  rw [AddressText, ← mapM_segment?_eq_some_iff, parseChars?]
  cases (splitDots cs).mapM segment? with
  | none => simp
  | some ns =>
    cases ns with
    | nil => simp [ofSegments?, segments]
    | cons n ns =>
      obtain ⟨top, below⟩ := a
      simp [ofSegments?, segments]

/-- The dotted form of segments is one of their texts. -/
theorem dottedText_dotted : ∀ {ns : List UInt32}, ns ≠ [] → DottedText (dotted ns) ns
  | [], h => absurd rfl h
  | [n], _ => .last (digitRun_digits n)
  | n :: k :: ns, _ => .cons (digitRun_digits n) (dottedText_dotted (List.cons_ne_nil k ns))

/-- The text of an address reads back as the address. -/
theorem parse?_text (a : Address) : parse? a.text = some a := by
  rw [parse?, text, String.toList_ofList]
  exact parseChars?_eq_some_iff.2 (dottedText_dotted a.segments_ne_nil)

end Address

theorem DottedText.ne_nil {cs : List Char} {ns : List UInt32} (h : DottedText cs ns) :
    cs ≠ [] := by
  cases h with
  | last h => exact h.ne_nil
  | cons h hrest => simp

theorem isBlank_of_isDigit {c : Char} (h : c.isDigit = true) : Text.isBlank c = false := by
  rw [Text.isDigit_eq, Bool.and_eq_true, decide_eq_true_eq, decide_eq_true_eq] at h
  simp only [Text.isBlank, Bool.or_eq_false_iff, Bool.and_eq_false_iff, decide_eq_false_iff_not,
    beq_eq_false_iff_ne]
  omega

/-- The characters of an address are digits and dots. -/
theorem DottedText.mem {cs : List Char} {ns : List UInt32} (h : DottedText cs ns) :
    ∀ c ∈ cs, c.isDigit = true ∨ c = '.' := by
  induction h with
  | last h => exact fun c hc => .inl (h.digits c hc)
  | cons h _ ih =>
    intro c hc
    rcases List.mem_append.1 hc with hc | hc
    · exact .inl (h.digits c hc)
    · rcases List.mem_cons.1 hc with rfl | hc
      · exact .inr rfl
      · exact ih c hc

theorem DigitRun.solid {ds : List Char} {n : UInt32} (h : DigitRun ds n) : Text.Solid ds :=
  fun c hc => isBlank_of_isDigit (h.digits c hc)

namespace AddressText

variable {cs : List Char} {a : Address}

theorem ne_nil (h : AddressText cs a) : cs ≠ [] := DottedText.ne_nil h

theorem solid (h : AddressText cs a) : Text.Solid cs := by
  intro c hc
  rcases DottedText.mem h c hc with hdigit | rfl
  · exact isBlank_of_isDigit hdigit
  · decide

end AddressText

end ActionTree
