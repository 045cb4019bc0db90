import ActionTree.Proofs.Address.Text
import Mathlib.Data.List.Forall2

/-!
# The canonical text of an address

An address is written with each segment in decimal and dots between them. A text that is read as an
address may have leading zeros in every run of digits; without them it is the text that is written.
So two texts are read as the same address if and only if they differ in leading zeros only.

* `Text.significant`: a run of digits without its leading zeros.
* `Text.toDigits_number`: it is what the number of the run is written as.
* `Address.WrittenAs`: a text is runs of digits below `2^32` with dots between them.
* `Address.exists_parse?_iff`: such texts and no others are read.
* `Address.reading_and_writing`: the account of reading, writing, and of going up and down.
-/

namespace ActionTree

namespace Text

/-! ## Leading zeros -/

/-- A run of digits without its leading zeros; a run of zeros is one zero. -/
def significant (ds : List Char) : List Char :=
  if ds.all (· == '0') then ['0'] else ds.dropWhile (· == '0')

theorem number_eq (ds : List Char) : number ds = Nat.ofDigitChars 10 ds 0 := by
  rw [number, Nat.ofDigitChars_eq_foldl]

/-- A digit is the character of its value. -/
theorem digitChar_of_isDigit {c : Char} (h : c.isDigit = true) :
    c.toNat - '0'.toNat < 10 ∧ Nat.digitChar (c.toNat - '0'.toNat) = c := by
  rw [isDigit_eq, Bool.and_eq_true, decide_eq_true_eq, decide_eq_true_eq] at h
  have hzero : '0'.toNat = 48 := rfl
  have hlt : c.toNat - '0'.toNat < 10 := by omega
  refine ⟨hlt, Char.toNat_inj.1 ?_⟩
  rw [Nat.toNat_digitChar_of_lt_ten hlt]
  omega

/-- Digits behind a positive number are digits of the number that they make with it. -/
theorem toDigits_append_digits {ds : List Char} (h : ∀ c ∈ ds, c.isDigit = true) {n : Nat}
    (hn : 0 < n) : Nat.toDigits 10 n ++ ds = Nat.toDigits 10 (Nat.ofDigitChars 10 ds n) := by
  induction ds generalizing n with
  | nil => rw [List.append_nil, Nat.ofDigitChars_nil]
  | cons c ds ih =>
    obtain ⟨hc, hds⟩ := List.forall_mem_cons.1 h
    obtain ⟨hlt, hchar⟩ := digitChar_of_isDigit hc
    have hstep : Nat.toDigits 10 n ++ [c] =
        Nat.toDigits 10 (10 * n + (c.toNat - '0'.toNat)) := by
      rw [← Nat.toDigits_append_toDigits (by decide) hn hlt, Nat.toDigits_of_lt_base hlt, hchar]
    calc Nat.toDigits 10 n ++ c :: ds
        = (Nat.toDigits 10 n ++ [c]) ++ ds := by simp
      _ = Nat.toDigits 10 (10 * n + (c.toNat - '0'.toNat)) ++ ds := by rw [hstep]
      _ = Nat.toDigits 10 (Nat.ofDigitChars 10 (c :: ds) n) := by
        rw [ih hds (by omega), Nat.ofDigitChars_cons]

/-- The number of a run is written as the run without its leading zeros. -/
theorem toDigits_number {ds : List Char} (h : ∀ c ∈ ds, c.isDigit = true) :
    Nat.toDigits 10 (number ds) = significant ds := by
  induction ds with
  | nil => exact Nat.toDigits_zero 10
  | cons c ds ih =>
    obtain ⟨hc, hds⟩ := List.forall_mem_cons.1 h
    -- A zero in front is dropped on both sides; at any other digit nothing is dropped any more.
    by_cases hzero : c = '0'
    · subst hzero
      have hnumber : number ('0' :: ds) = number ds := by
        rw [number_eq, number_eq, Nat.ofDigitChars_cons]
        rfl
      have hdrop : significant ('0' :: ds) = significant ds := by
        simp [significant]
      rw [hnumber, hdrop, ih hds]
    · obtain ⟨hlt, hchar⟩ := digitChar_of_isDigit hc
      have hpos : 0 < c.toNat - '0'.toNat := by
        rw [Nat.pos_iff_ne_zero]
        intro h0
        rw [h0] at hchar
        exact hzero hchar.symm
      have hsignificant : significant (c :: ds) = c :: ds := by
        simp [significant, hzero]
      have hnumber : number (c :: ds) = Nat.ofDigitChars 10 ds (c.toNat - '0'.toNat) := by
        rw [number_eq, Nat.ofDigitChars_cons, Nat.mul_zero, Nat.zero_add]
      have happend := toDigits_append_digits hds hpos
      rw [Nat.toDigits_of_lt_base hlt, hchar] at happend
      rw [hnumber, ← happend, hsignificant, List.singleton_append]

end Text

namespace Address

/-! ## Runs with dots between them -/

/-- A text is runs of digits with dots between them, each of them a number below `2^32`. -/
structure WrittenAs (cs : List Char) (runs : List (List Char)) : Prop where
  ne_nil : runs ≠ []
  number : ∀ run ∈ runs, run ≠ [] ∧ (∀ c ∈ run, c.isDigit = true) ∧ Text.number run < UInt32.size
  text : cs = ['.'].intercalate runs

theorem intercalate_cons {runs : List (List Char)} (h : runs ≠ []) (run : List Char) :
    ['.'].intercalate (run :: runs) = run ++ '.' :: ['.'].intercalate runs := by
  cases runs with
  | nil => exact absurd rfl h
  | cons r rest => simp [List.intercalate]

/-- A run of digits denotes a segment if its number is below `2^32`. -/
theorem exists_digitRun_iff {run : List Char} :
    (∃ n, DigitRun run n) ↔
      run ≠ [] ∧ (∀ c ∈ run, c.isDigit = true) ∧ Text.number run < UInt32.size := by
  constructor
  · rintro ⟨n, h⟩
    exact ⟨h.ne_nil, h.digits, h.value ▸ n.toNat_lt_size⟩
  · rintro ⟨hne, hdigits, hlt⟩
    exact ⟨.ofNat (Text.number run), hne, hdigits, (UInt32.toNat_ofNat_of_lt' hlt).symm⟩

/-- The texts of segments are their runs with dots between them. -/
theorem dottedText_iff {cs : List Char} {ns : List UInt32} :
    DottedText cs ns ↔
      ∃ runs, runs ≠ [] ∧ cs = ['.'].intercalate runs ∧ List.Forall₂ DigitRun runs ns := by
  constructor
  · intro h
    induction h with
    | @last ds n h => exact ⟨[ds], by simp, by simp [List.intercalate], .cons h .nil⟩
    | @cons ds rest n ns h _ ih =>
      obtain ⟨runs, hne, rfl, hruns⟩ := ih
      exact ⟨ds :: runs, by simp, (intercalate_cons hne ds).symm, .cons h hruns⟩
  · rintro ⟨runs, hne, rfl, hruns⟩
    induction hruns with
    | nil => exact absurd rfl hne
    | @cons run n runs ns h hrest ih =>
      -- Behind the last run there is no dot.
      by_cases hnil : runs = []
      · subst hnil
        cases hrest
        simpa [List.intercalate] using DottedText.last h
      · rw [intercalate_cons hnil]
        exact .cons h (ih hnil)

/-- The text that is written for segments has dots between their digits. -/
theorem dotted_eq_intercalate : ∀ ns : List UInt32,
    dotted ns = ['.'].intercalate (ns.map fun n => Nat.toDigits 10 n.toNat)
  | [] => rfl
  | [n] => by simp [dotted, digits, List.intercalate]
  | n :: k :: ns => by
    have hne : (k :: ns).map (fun n => Nat.toDigits 10 n.toNat) ≠ [] := by simp
    rw [dotted, dotted_eq_intercalate (k :: ns), digits]
    exact (intercalate_cons hne _).symm

/-- Without leading zeros a run is what its segment is written as. -/
theorem map_significant {runs : List (List Char)} {ns : List UInt32}
    (h : List.Forall₂ DigitRun runs ns) :
    runs.map Text.significant = ns.map fun n => Nat.toDigits 10 n.toNat := by
  induction h with
  | nil => rfl
  | cons h _ ih =>
    rw [List.map_cons, List.map_cons, ih, ← Text.toDigits_number h.digits, h.value]

theorem map_number {runs : List (List Char)} {ns : List UInt32}
    (h : List.Forall₂ DigitRun runs ns) : runs.map Text.number = ns.map UInt32.toNat := by
  induction h with
  | nil => rfl
  | cons h _ ih => rw [List.map_cons, List.map_cons, ih, h.value]

/-! ## Reading and writing -/

/-- What an accepted text is read as: the segments are the numbers of its runs, and the address is
written as the text without leading zeros. -/
theorem WrittenAs.parse? {s : String} {runs : List (List Char)} (h : WrittenAs s.toList runs) :
    ∃ a, Address.parse? s = some a ∧ a.segments.map UInt32.toNat = runs.map Text.number ∧
      a.text = String.ofList (['.'].intercalate (runs.map Text.significant)) := by
  have hns : ∀ run ∈ runs, ∃ n, DigitRun run n := fun run hrun =>
    exists_digitRun_iff.2 (h.number run hrun)
  obtain ⟨ns, hruns⟩ : ∃ ns, List.Forall₂ DigitRun runs ns := by
    clear h
    induction runs with
    | nil => exact ⟨[], .nil⟩
    | cons run runs ih =>
      obtain ⟨⟨n, hn⟩, hrest⟩ := List.forall_mem_cons.1 hns
      obtain ⟨ns, hns⟩ := ih hrest
      exact ⟨n :: ns, .cons hn hns⟩
  cases hruns with
  | nil => exact absurd rfl h.ne_nil
  | @cons run n runs ns hrun hrest =>
    have hruns : List.Forall₂ DigitRun (run :: runs) (n :: ns) := .cons hrun hrest
    refine ⟨⟨n, ns⟩, ?_, (map_number hruns).symm, ?_⟩
    · rw [Address.parse?, parseChars?_eq_some_iff]
      exact dottedText_iff.2 ⟨_, h.ne_nil, h.text, hruns⟩
    · rw [map_significant hruns, ← dotted_eq_intercalate]
      rfl

/-- A text is read as an address if and only if it is runs of digits with dots between them. -/
theorem exists_parse?_iff {s : String} :
    (∃ a, Address.parse? s = some a) ↔ ∃ runs, WrittenAs s.toList runs := by
  constructor
  · rintro ⟨a, ha⟩
    rw [Address.parse?, parseChars?_eq_some_iff] at ha
    obtain ⟨runs, hne, htext, hruns⟩ := dottedText_iff.1 ha
    have hnumbers := (List.forall₂_and_left runs a.segments).1
      (hruns.imp fun _ n h => ⟨exists_digitRun_iff.1 ⟨n, h⟩, h⟩)
    exact ⟨runs, hne, hnumbers.1, htext⟩
  · rintro ⟨runs, h⟩
    obtain ⟨a, ha, -⟩ := h.parse?
    exact ⟨a, ha⟩

theorem text_injective {a b : Address} (h : a.text = b.text) : a = b := by
  have ha := parse?_text a
  rw [h, parse?_text b] at ha
  exact (Option.some.inj ha).symm

/-- Two texts are read as the same address if they agree without leading zeros. -/
theorem parse?_eq_parse?_iff {s t : String} {rs ts : List (List Char)}
    (hs : WrittenAs s.toList rs) (ht : WrittenAs t.toList ts) :
    Address.parse? s = Address.parse? t ↔
      ['.'].intercalate (rs.map Text.significant) =
        ['.'].intercalate (ts.map Text.significant) := by
  obtain ⟨a, ha, -, htext⟩ := hs.parse?
  obtain ⟨b, hb, -, htext'⟩ := ht.parse?
  rw [ha, hb, Option.some.injEq]
  constructor
  · rintro rfl
    rw [htext] at htext'
    exact String.ofList_injective htext'
  · intro h
    refine text_injective ?_
    rw [htext, htext', h]

theorem segments_parent? {a p : Address} (h : a.parent? = some p) :
    p.segments = a.segments.dropLast := by
  have hchild : a.segments = p.segments ++ [a.last] := congrArg segments (parent?_eq_some_iff.1 h)
  rw [hchild, List.dropLast_concat]

/-- **The texts of addresses.** A text is read as an address if and only if it is runs of digits
with dots between them, each a number below `2^32`; the address is written without the leading zeros
of the runs, and reads back. Every address has a segment, however it was built. -/
theorem reading_and_writing :
    (∀ ns : List UInt32, ns ≠ [] → ∃ a, ofSegments? ns = some a ∧ a.segments = ns ∧
      a.text = String.ofList (['.'].intercalate (ns.map fun n => Nat.toDigits 10 n.toNat)) ∧
      Address.parse? a.text = some a) ∧
    ((∀ a : Address, 1 ≤ a.segments.length) ∧ root.segments = [0] ∧
      (∀ a n, (child a n).segments = a.segments ++ [n]) ∧
      ∀ a p : Address, a.parent? = some p → p.segments = a.segments.dropLast) ∧
    (∀ s, (∃ a, Address.parse? s = some a) ↔ ∃ runs, WrittenAs s.toList runs) ∧
    (∀ s runs, WrittenAs s.toList runs → ∃ a, Address.parse? s = some a ∧
      a.segments.map UInt32.toNat = runs.map Text.number ∧
      a.text = String.ofList (['.'].intercalate (runs.map Text.significant))) ∧
    (∀ s t rs ts, WrittenAs s.toList rs → WrittenAs t.toList ts →
      (Address.parse? s = Address.parse? t ↔
        ['.'].intercalate (rs.map Text.significant) =
          ['.'].intercalate (ts.map Text.significant))) ∧
    ∀ (a : Address) (n : UInt32), (a.child n).parent? = some a ∧ (a.child n).last = n ∧
      (a.child n).depth = a.depth + 1 ∧ (a.parent? = none ↔ a.depth = 1) := by
  refine ⟨fun ns hne => ?_, ⟨fun a => ?_, rfl, fun a n => rfl, fun a p => segments_parent?⟩,
    fun s => exists_parse?_iff, fun s runs h => h.parse?,
    fun s t rs ts hs ht => parse?_eq_parse?_iff hs ht, fun a n => ?_⟩
  · obtain ⟨n, ns, rfl⟩ := List.exists_cons_of_ne_nil hne
    refine ⟨⟨n, ns⟩, rfl, rfl, ?_, parse?_text _⟩
    rw [← dotted_eq_intercalate]
    rfl
  · exact List.length_pos_iff.2 a.segments_ne_nil
  · exact ⟨parent?_child a n, last_child a n, depth_child a n, depth_eq_one_iff.symm⟩

/-- Zeros in front of the greatest segment change nothing, and zeros alone are one zero. -/
theorem zeros_in_front_of_segments :
    let s := "000.04294967295.010"
    (∃ a, Address.parse? s = some a ∧ a.segments.map UInt32.toNat = [0, 4294967295, 10] ∧
      a.text = "0.4294967295.10") ∧
    Address.parse? s = Address.parse? "0.4294967295.10" := by
  intro s
  have hnumber (run : List Char) (hne : run ≠ []) (hdigits : run.all (·.isDigit) = true)
      (hlt : Text.number run < UInt32.size) :
      run ≠ [] ∧ (∀ c ∈ run, c.isDigit = true) ∧ Text.number run < UInt32.size :=
    ⟨hne, List.all_eq_true.1 hdigits, hlt⟩
  have hlong : WrittenAs s.toList ["000".toList, "04294967295".toList, "010".toList] := by
    refine ⟨List.cons_ne_nil _ _, ?_, by decide +kernel⟩
    simp only [List.forall_mem_cons]
    exact ⟨hnumber _ (by decide) rfl (by decide +kernel), hnumber _ (by decide) rfl
      (by decide +kernel), hnumber _ (by decide) rfl (by decide +kernel), nofun⟩
  have hshort : WrittenAs "0.4294967295.10".toList
      ["0".toList, "4294967295".toList, "10".toList] := by
    refine ⟨List.cons_ne_nil _ _, ?_, by decide +kernel⟩
    simp only [List.forall_mem_cons]
    exact ⟨hnumber _ (by decide) rfl (by decide +kernel), hnumber _ (by decide) rfl
      (by decide +kernel), hnumber _ (by decide) rfl (by decide +kernel), nofun⟩
  obtain ⟨-, -, -, hread, hsame, -⟩ := reading_and_writing
  refine ⟨?_, (hsame _ _ _ _ hlong hshort).2 (by decide +kernel)⟩
  obtain ⟨a, ha, hsegments, htext⟩ := hread s _ hlong
  exact ⟨a, ha, hsegments.trans (by decide +kernel), htext.trans (by decide +kernel)⟩

end Address

end ActionTree
