import ActionTree.Instant.Reader
import ActionTree.Proofs.Address.Text
import ActionTree.Proofs.Document.Records
import Mathlib.Data.Nat.Digits.Defs

/-!
# The text of an instant

The reader takes the text of a moment for that moment. Every part of the text is read where it
stands: a number of a fixed width by its width, and one without a width up to the character behind
it, which is no digit.

* `Padded`: digits with zeros in front.
* `readNumber_append`: the two ways in which a number ends.
* `readYear_text`, `readField_padded`, `readMark_cons`, `readFraction_text`: the parts of a text.
* `parse?_text`: the whole text.
-/

namespace ActionTree.Instant

open Text

/-! ## Digits -/

/-- Digits of a number, `width` of them or more. -/
structure Padded (width n : Nat) (ds : List Char) : Prop where
  digits : ∀ c ∈ ds, c.isDigit = true
  value : number ds = n
  length : width ≤ ds.length

theorem number_zeros (k : Nat) (ds : List Char) :
    number (List.replicate k '0' ++ ds) = number ds := by
  induction k with
  | zero => rfl
  | succ k ih => exact ih

theorem padded_digits (width n : Nat) : Padded width n (padded width n) where
  digits c hc := by
    rcases List.mem_append.1 hc with hzero | hdigit
    · rw [List.eq_of_mem_replicate hzero]
      rfl
    · exact Nat.isDigit_of_mem_toDigits (by decide) (by decide) hdigit
  value := (number_zeros _ _).trans (Nat.ofDigitChars_toDigits (by decide) (by decide))
  length := by
    rw [padded, List.length_append, List.length_replicate]
    omega

/-- A number that fits has its width. -/
theorem length_padded {width n : Nat} (hwidth : 0 < width) (h : n < 10 ^ width) :
    (padded width n).length = width := by
  have hle := Nat.toDigits_length 10 n width hwidth h
  rw [padded, List.length_append, List.length_replicate]
  omega

namespace Padded

variable {width n : Nat} {ds : List Char} (h : Padded (width + 1) n ds)

include h

theorem ne_nil : ds ≠ [] := List.ne_nil_of_length_pos (Nat.lt_of_lt_of_le (Nat.succ_pos _) h.length)

/-- No blank is in front of a digit. -/
theorem trimStart_append (rest : List Char) : trimStart (ds ++ rest) = ds ++ rest := by
  refine trimStart_eq_self fun c hc => ?_
  rw [List.head?_append_of_ne_nil _ h.ne_nil] at hc
  exact isBlank_of_isDigit (h.digits c (List.mem_of_mem_head? hc))

end Padded

/-- The first character of a text is no digit, if it has one. -/
def NoDigit (cs : List Char) : Prop := ∀ c, cs.head? = some c → c.isDigit = false

theorem noDigit_cons {c : Char} (h : c.isDigit = false) (cs : List Char) : NoDigit (c :: cs) := by
  rintro _ ⟨⟩
  exact h

theorem NoDigit.takeWhile {cs : List Char} (h : NoDigit cs) : cs.takeWhile (·.isDigit) = [] := by
  cases cs with
  | nil => rfl
  | cons c cs => exact List.takeWhile_cons_of_neg (by simp [h c rfl])

theorem NoDigit.dropWhile {cs : List Char} (h : NoDigit cs) : cs.dropWhile (·.isDigit) = cs := by
  cases cs with
  | nil => rfl
  | cons c cs => exact List.dropWhile_cons_of_neg (by simp [h c rfl])

theorem NoDigit.take {cs : List Char} (h : NoDigit cs) (k : Nat) : NoDigit (cs.take k) := by
  cases k with
  | zero => nofun
  | succ k =>
    cases cs with
    | nil => nofun
    | cons c cs => exact noDigit_cons (h c rfl) _

/-- A number is read up to the end of its width, or up to a character that is no digit. -/
theorem takeWhile_take_append {width : Nat} {ds rest : List Char}
    (hdigits : ∀ c ∈ ds, c.isDigit = true) (hwidth : ds.length ≤ width)
    (hend : ds.length = width ∨ NoDigit rest) :
    ((ds ++ rest).take width).takeWhile (·.isDigit) = ds := by
  rw [List.take_append, List.take_of_length_le hwidth, List.takeWhile_append_of_pos hdigits]
  have hrest : (rest.take (width - ds.length)).takeWhile (·.isDigit) = [] := by
    rcases hend with hfull | hend
    · rw [hfull, Nat.sub_self, List.take_zero, List.takeWhile_nil]
    · exact (hend.take _).takeWhile
  rw [hrest, List.append_nil]

theorem readNumber_append {least n width : Nat} {ds rest : List Char} (h : Padded (least + 1) n ds)
    (hwidth : ds.length ≤ width) (hend : ds.length = width ∨ NoDigit rest) :
    readNumber width (ds ++ rest) = some (n, rest) := by
  rw [readNumber]
  simp only [takeWhile_take_append h.digits hwidth hend, List.isEmpty_iff, h.ne_nil, ↓reduceIte,
    h.value, List.drop_left]

/-! ## The parts of a text -/

theorem readField_padded {least greatest n : Nat} (hleast : least ≤ n) (hgreatest : n ≤ greatest)
    (hbound : greatest < 100) (rest : List Char) :
    readField least greatest (padded 2 n ++ rest) = some (n, rest) := by
  have hlength : (padded 2 n).length = 2 := length_padded (by decide) (by omega)
  have hpadded := padded_digits 2 n
  rw [readField, hpadded.trimStart_append,
    readNumber_append hpadded (Nat.le_of_eq hlength) (.inl hlength)]
  exact if_pos ⟨hleast, hgreatest⟩

theorem readMark_cons {mark : Char} (h : isBlank mark = false) (rest : List Char) :
    readMark mark (mark :: rest) = some rest := by
  rw [readMark, trimStart, List.dropWhile_cons_of_neg (by simp [h])]
  exact if_pos rfl

/-- A year with a sign goes up to the next character that is no digit. -/
theorem readNumber_year (n : Nat) (rest : List Char) :
    readNumber (padded 4 n ++ '-' :: rest).length (padded 4 n ++ '-' :: rest) =
      some (n, '-' :: rest) := by
  refine readNumber_append (padded_digits 4 n) ?_ (.inr (noDigit_cons rfl _))
  rw [List.length_append]
  exact Nat.le_add_right _ _

theorem readYear_text (year : Int) (rest : List Char) :
    readYear (yearText year ++ '-' :: rest) = some (year, '-' :: rest) := by
  rw [yearText]
  split
  · rename_i hyear
    have hlength : (padded 4 year.toNat).length = 4 := length_padded (by decide) (by omega)
    have hpadded := padded_digits 4 year.toNat
    have hnumber : readNumber 4 (padded 4 year.toNat ++ '-' :: rest) =
        some (year.toNat, '-' :: rest) :=
      readNumber_append hpadded (Nat.le_of_eq hlength) (.inl hlength)
    obtain ⟨c, ds, hds⟩ := List.exists_cons_of_ne_nil hpadded.ne_nil
    have hdigit := hpadded.digits c (by simp [hds])
    rw [readYear, hpadded.trimStart_append]
    -- The text starts with a digit, so it has no sign.
    split
    · rename_i hminus
      rw [hds] at hminus
      cases hminus
      cases hdigit
    · rename_i hplus
      rw [hds] at hplus
      cases hplus
      cases hdigit
    · rw [hnumber]
      simp only [Option.map_some, Int.toNat_of_nonneg hyear.1]
  · split
    · rw [readYear, List.cons_append, trimStart, List.dropWhile_cons_of_neg (by decide)]
      simp only [readNumber_year, Option.map_some]
      rw [show -(year.natAbs : Int) = year by omega]
    · rw [readYear, List.cons_append, trimStart, List.dropWhile_cons_of_neg (by decide)]
      simp only [readNumber_year, Option.map_some]
      rw [show (year.natAbs : Int) = year by omega]

/-- A fraction of a width, in nanoseconds. -/
theorem readFraction_padded {k n : Nat} (hwidth : k + 1 ≤ 9) (hn : n < 10 ^ (k + 1))
    {rest : List Char} (hrest : NoDigit rest) :
    readFraction ('.' :: (padded (k + 1) n ++ rest)) =
      some (n * Nat.pow 10 (9 - (k + 1)), rest) := by
  have hlength : (padded (k + 1) n).length = k + 1 := length_padded (Nat.succ_pos k) hn
  have hpadded := padded_digits (k + 1) n
  have hdrop : (padded (k + 1) n ++ rest).drop (k + 1) = rest := by
    rw [List.drop_append_of_le_length (Nat.le_of_eq hlength.symm),
      List.drop_of_length_le (Nat.le_of_eq hlength), List.nil_append]
  rw [readFraction]
  simp only [takeWhile_take_append hpadded.digits (hlength ▸ hwidth) (.inr hrest),
    List.isEmpty_iff, hpadded.ne_nil, ↓reduceIte, hpadded.value, hlength, hdrop, hrest.dropWhile]

/-- The fraction of a second stands in front of the zone, which is neither a digit nor a dot. -/
theorem readFraction_text {nano : Nat} (h : nano < 1000000000) :
    readFraction (fractionText nano ++ ['Z']) = some (nano, ['Z']) := by
  have hzone : NoDigit ['Z'] := noDigit_cons rfl _
  rw [fractionText]
  split
  · rename_i hzero
    rw [hzero]
    rfl
  split
  · rw [List.cons_append, readFraction_padded (by decide) (by omega) hzone]
    congr 2
    change nano / 1000000 * 1000000 = nano
    omega
  split
  · rw [List.cons_append, readFraction_padded (by decide) (by omega) hzone]
    congr 2
    change nano / 1000 * 1000 = nano
    omega
  · rw [List.cons_append, readFraction_padded (by decide) (by omega) hzone]
    congr 2
    exact Nat.mul_one nano

/-! ## Whole texts -/

theorem shift_zero {t : Instant} (hhour : t.hour < 24) (hminute : t.minute < 60) :
    t.shift 0 = t := by
  have hhour' : (t.hour * 60 + t.minute) / 60 = t.hour := by omega
  have hminute' : (t.hour * 60 + t.minute) % 60 = t.minute := by omega
  rw [shift]
  simp only
  rw [if_neg (by omega), if_pos (by omega), Int.sub_zero]
  have htoNat : ((t.hour : Int) * 60 + t.minute).toNat = t.hour * 60 + t.minute := by omega
  rw [htoNat, hhour', hminute']

theorem daysIn_le (year : Int) (month : Nat) : daysIn year month ≤ 31 := by
  unfold daysIn
  split
  · split <;> decide
  split <;> decide

/-- **The text of a moment reads back as the moment.** -/
theorem parse?_text {t : Instant} (h : t.isValid = true) : parse? t.text = some t := by
  have hvalid := h
  simp only [isValid, Bool.and_eq_true, decide_eq_true_eq] at hvalid
  obtain ⟨⟨⟨⟨⟨⟨⟨⟨-, hmonth⟩, hmonth'⟩, hday⟩, hday'⟩, hhour⟩, hminute⟩, hsecond⟩, hnano⟩ := hvalid
  have hdash : ∀ rest, readMark '-' ('-' :: rest) = some rest := readMark_cons (by decide)
  have hcolon : ∀ rest, readMark ':' (':' :: rest) = some rest := readMark_cons (by decide)
  have hmonths := readField_padded hmonth hmonth' (by decide)
  have hdays := readField_padded hday (hday'.trans (daysIn_le _ _)) (by decide)
  have hhours := readField_padded (Nat.zero_le t.hour) (Nat.le_of_lt_succ hhour) (by decide)
  have hminutes := readField_padded (Nat.zero_le t.minute) (Nat.le_of_lt_succ hminute) (by decide)
  have hseconds := readField_padded (Nat.zero_le t.second) hsecond (by decide)
  have hzone : readZone (trimStart ['Z']) = some (0, []) := by decide
  rw [parse?, text, String.toList_ofList, chars]
  simp only [List.append_assoc, List.cons_append]
  refine read_then (readYear_text _ _) <| read_then (hdash _) <| read_then (hmonths _) <|
    read_then (hdash _) <| read_then (hdays _) <| read_then rfl <| read_then (hhours _) <|
    read_then (hcolon _) <| read_then (hminutes _) <| read_then (hcolon _) <|
    read_then (hseconds _) <| read_then (readFraction_text hnano) <| read_then hzone ?_
  simp only [shift_zero hhour hminute, h]
  rfl

end ActionTree.Instant
