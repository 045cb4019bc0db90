import ActionTree.Text.Utf8
import Mathlib.Data.List.Basic
import Mathlib.Data.List.Induction

/-!
# Texts as bytes and back

The bytes of a text decode to the text. An ASCII character is one byte, its own code point; all
bytes of other characters are `0x80` or more. So an ASCII byte is among the bytes of a text only
where the text has its character.

* `Utf8.decode?_encode`: bytes read back.
* `Utf8.mem_of_mem_encode`, `Utf8.getLast?_of_encode`: where an ASCII byte is among the bytes of a
  text.
-/

namespace ActionTree.Text.Utf8

theorem toNat_byte {k : Nat} (h : k < 256) : (UInt8.ofNat k).toNat = k :=
  UInt8.toNat_ofNat_of_lt' h

theorem not_byte_lt {k : Nat} (hk : k < 256) (h : 0x80 ≤ k) : ¬UInt8.ofNat k < 0x80 := by
  rw [UInt8.lt_iff_toNat_lt, toNat_byte hk]
  exact Nat.not_lt.2 h

/-! ## From byte to byte -/

/-- A character of one byte. -/
theorem units_ascii {k : Nat} (hk : k < 0x80) (bs : List UInt8) :
    units none (UInt8.ofNat k :: bs) = .char (Char.ofNat k) :: units none bs := by
  have hlt : UInt8.ofNat k < 0x80 := by
    rw [UInt8.lt_iff_toNat_lt, toNat_byte (by omega)]
    exact hk
  rw [units, begin, if_pos hlt, toNat_byte (by omega)]
  rfl

/-- A byte that begins a longer character. -/
theorem units_lead {k more bits : Nat} {least greatest : UInt8} (hk : k < 256) (hk' : 0x80 ≤ k)
    (hlead : lead? (UInt8.ofNat k) = some ⟨more, least, greatest, bits⟩) (bs : List UInt8) :
    units none (UInt8.ofNat k :: bs) = units (some ⟨more, least, greatest, bits⟩) bs := by
  rw [units, begin, if_neg (not_byte_lt hk hk'), hlead]
  rfl

section Further

variable {k more value : Nat} {least greatest : UInt8} (hk : k < 64)
  (hleast : least.toNat ≤ k + 0x80) (hgreatest : k + 0x80 ≤ greatest.toNat)

include hk hleast hgreatest

theorem in_range : least ≤ UInt8.ofNat (k + 0x80) ∧ UInt8.ofNat (k + 0x80) ≤ greatest := by
  rw [UInt8.le_iff_toNat_le, UInt8.le_iff_toNat_le, toNat_byte (by omega)]
  exact ⟨hleast, hgreatest⟩

/-- A further byte of a longer character. -/
theorem units_next (hmore : more ≠ 1) (bs : List UInt8) :
    units (some ⟨more, least, greatest, value⟩) (UInt8.ofNat (k + 0x80) :: bs) =
      units (some ⟨more - 1, 0x80, 0xBF, value * 64 + k⟩) bs := by
  rw [units, if_pos (in_range hk hleast hgreatest), toNat_byte (by omega), Nat.add_sub_cancel]
  exact if_neg hmore

/-- The last byte of a longer character. -/
theorem units_last (hmore : more = 1) (bs : List UInt8) :
    units (some ⟨more, least, greatest, value⟩) (UInt8.ofNat (k + 0x80) :: bs) =
      .char (Char.ofNat (value * 64 + k)) :: units none bs := by
  rw [units, if_pos (in_range hk hleast hgreatest), toNat_byte (by omega), Nat.add_sub_cancel]
  exact if_pos hmore

end Further

theorem least_le (k : Nat) : (0x80 : UInt8).toNat ≤ k + 0x80 := Nat.le_add_left _ _

theorem le_greatest {k : Nat} (hk : k < 64) : k + 0x80 ≤ (0xBF : UInt8).toNat := by
  change k + 0x80 ≤ 0xBF
  omega

/-- The last six bits of a number. -/
theorem low_lt (n : Nat) : n % 64 < 64 := Nat.mod_lt _ (by decide)

section Longer

variable {v : Nat} (bs : List UInt8)

theorem units_two (hleast : 0x80 ≤ v) (hv : v < 0x800) :
    units none (UInt8.ofNat (v / 64 % 32 + 0xC0) :: UInt8.ofNat (v % 64 + 0x80) :: bs) =
      .char (Char.ofNat v) :: units none bs := by
  have hlead : lead? (UInt8.ofNat (v / 64 % 32 + 0xC0)) = some ⟨1, 0x80, 0xBF, v / 64⟩ := by
    rw [lead?, toNat_byte (by omega), if_pos (by omega), Nat.add_sub_cancel,
      Nat.mod_eq_of_lt (by omega)]
  rw [units_lead (by omega) (by omega) hlead,
    units_last (low_lt v) (least_le _) (le_greatest (low_lt v)) rfl,
    show v / 64 * 64 + v % 64 = v by omega]

/-- The first of three bytes leaves a range for the second one. -/
theorem lead?_three (hleast : 0x800 ≤ v) (hv : v < 0xD800 ∨ 0xDFFF < v ∧ v < 0x10000) :
    ∃ least greatest, lead? (UInt8.ofNat (v / 4096 % 16 + 0xE0)) =
        some ⟨2, least, greatest, v / 4096⟩ ∧
      least.toNat ≤ v / 64 % 64 + 0x80 ∧ v / 64 % 64 + 0x80 ≤ greatest.toNat := by
  rw [Nat.mod_eq_of_lt (show v / 4096 < 16 by omega), lead?, toNat_byte (by omega),
    if_neg (by omega)]
  rcases Nat.eq_zero_or_pos (v / 4096) with hzero | hpos
  · rw [hzero, if_pos (by omega)]
    exact ⟨0xA0, 0xBF, rfl, by simp; omega, by simp; omega⟩
  rw [if_neg (by omega)]
  by_cases hgap : v / 4096 = 0xD
  · rw [hgap, if_pos (by omega)]
    exact ⟨0x80, 0x9F, rfl, by simp, by simp; omega⟩
  · rw [if_neg (by omega), if_pos (by omega), Nat.add_sub_cancel]
    exact ⟨0x80, 0xBF, rfl, by simp, by simp; omega⟩

theorem units_three (hleast : 0x800 ≤ v) (hv : v < 0xD800 ∨ 0xDFFF < v ∧ v < 0x10000) :
    units none (UInt8.ofNat (v / 4096 % 16 + 0xE0) :: UInt8.ofNat (v / 64 % 64 + 0x80) ::
      UInt8.ofNat (v % 64 + 0x80) :: bs) = .char (Char.ofNat v) :: units none bs := by
  obtain ⟨least, greatest, hlead, hlow, hhigh⟩ := lead?_three hleast hv
  rw [units_lead (by omega) (by omega) hlead, units_next (low_lt _) hlow hhigh (by decide),
    units_last (low_lt v) (least_le _) (le_greatest (low_lt v)) rfl,
    show (v / 4096 * 64 + v / 64 % 64) * 64 + v % 64 = v by omega]

/-- The first of four bytes leaves a range for the second one. -/
theorem lead?_four (hleast : 0x10000 ≤ v) (hv : v < 0x110000) :
    ∃ least greatest, lead? (UInt8.ofNat (v / 262144 % 8 + 0xF0)) =
        some ⟨3, least, greatest, v / 262144⟩ ∧
      least.toNat ≤ v / 4096 % 64 + 0x80 ∧ v / 4096 % 64 + 0x80 ≤ greatest.toNat := by
  rw [Nat.mod_eq_of_lt (show v / 262144 < 8 by omega), lead?, toNat_byte (by omega),
    if_neg (by omega), if_neg (by omega), if_neg (by omega), if_neg (by omega)]
  rcases Nat.eq_zero_or_pos (v / 262144) with hzero | hpos
  · rw [hzero, if_pos (by omega)]
    exact ⟨0x90, 0xBF, rfl, by simp; omega, by simp; omega⟩
  rw [if_neg (by omega)]
  by_cases hlast : v / 262144 = 4
  · rw [hlast, if_neg (by omega), if_pos (by omega)]
    exact ⟨0x80, 0x8F, rfl, by simp, by simp; omega⟩
  · rw [if_pos (by omega), Nat.add_sub_cancel]
    exact ⟨0x80, 0xBF, rfl, by simp, by simp; omega⟩

theorem units_four (hleast : 0x10000 ≤ v) (hv : v < 0x110000) :
    units none (UInt8.ofNat (v / 262144 % 8 + 0xF0) :: UInt8.ofNat (v / 4096 % 64 + 0x80) ::
      UInt8.ofNat (v / 64 % 64 + 0x80) :: UInt8.ofNat (v % 64 + 0x80) :: bs) =
        .char (Char.ofNat v) :: units none bs := by
  obtain ⟨least, greatest, hlead, hlow, hhigh⟩ := lead?_four hleast hv
  rw [units_lead (by omega) (by omega) hlead, units_next (low_lt _) hlow hhigh (by decide),
    units_next (low_lt _) (least_le _) (le_greatest (low_lt _)) (by decide),
    units_last (low_lt v) (least_le _) (le_greatest (low_lt v)) rfl,
    show ((v / 262144 * 64 + v / 4096 % 64) * 64 + v / 64 % 64) * 64 + v % 64 = v by omega]

end Longer

/-! ## Whole texts -/

/-- The bytes of a character are read as the character. -/
theorem units_encodeChar (c : Char) (bs : List UInt8) :
    units none (String.utf8EncodeChar c ++ bs) = .char c :: units none bs := by
  have hc : Char.ofNat c.val.toNat = c := Char.ofNat_toNat c
  have hvalid : c.val.toNat < 0xD800 ∨ 0xDFFF < c.val.toNat ∧ c.val.toNat < 0x110000 := c.valid
  unfold String.utf8EncodeChar
  simp only
  generalize c.val.toNat = v at hc hvalid
  subst hc
  split
  · exact units_ascii (by omega) bs
  split
  · exact units_two bs (by omega) (by omega)
  split
  · exact units_three bs (by omega) (by omega)
  · exact units_four bs (by omega) (by omega)

theorem units_encode (cs : List Char) : units none (encode cs) = cs.map .char := by
  induction cs with
  | nil => rfl
  | cons c rest ih => rw [encode, List.flatMap_cons, units_encodeChar, ← encode, ih, List.map_cons]

/-- The bytes of a text are well formed and decode to it. -/
theorem decode?_encode (cs : List Char) : decode? (encode cs) = some cs := by
  rw [decode?, units_encode]
  induction cs with
  | nil => rfl
  | cons c rest ih =>
    rw [List.map_cons, List.mapM_cons, ih]
    rfl

/-! ## ASCII characters in a text -/

/-- A character is one byte, its own code point, or none of its bytes is ASCII. -/
theorem encodeChar_cases (c : Char) :
    c.toNat < 0x80 ∧ String.utf8EncodeChar c = [UInt8.ofNat c.toNat] ∨
      ∀ b ∈ String.utf8EncodeChar c, ¬b < 0x80 := by
  unfold String.utf8EncodeChar
  simp only [Char.toNat]
  generalize c.val.toNat = v
  split
  · exact .inl ⟨by omega, rfl⟩
  · right
    repeat' split
    all_goals
      simp only [List.forall_mem_cons, List.not_mem_nil, IsEmpty.forall_iff, implies_true, and_true]
      and_intros <;> exact not_byte_lt (by omega) (Nat.le_add_left_of_le (by decide))

theorem encodeChar_of_mem {b : UInt8} (hb : b < 0x80) {c : Char}
    (h : b ∈ String.utf8EncodeChar c) : c = Char.ofNat b.toNat := by
  rcases encodeChar_cases c with ⟨hc, hbytes⟩ | hlong
  · rw [hbytes, List.mem_singleton] at h
    rw [h, toNat_byte (by omega)]
    exact (Char.ofNat_toNat c).symm
  · exact absurd hb (hlong b h)

/-- An ASCII byte of a text is that of its character. -/
theorem mem_of_mem_encode {b : UInt8} (hb : b < 0x80) {cs : List Char} (h : b ∈ encode cs) :
    Char.ofNat b.toNat ∈ cs := by
  obtain ⟨c, hc, hbyte⟩ := List.mem_flatMap.1 h
  exact encodeChar_of_mem hb hbyte ▸ hc

theorem encode_append (cs ds : List Char) : encode (cs ++ ds) = encode cs ++ encode ds :=
  List.flatMap_append

theorem encodeChar_ne_nil (c : Char) : String.utf8EncodeChar c ≠ [] := by
  intro h
  have hlength := congrArg List.length h
  rw [String.length_utf8EncodeChar] at hlength
  exact absurd hlength (Nat.ne_of_gt c.utf8Size_pos)

/-- An ASCII byte at the end of a text is that of the last character. -/
theorem getLast?_of_encode {b : UInt8} (hb : b < 0x80) {cs : List Char}
    (h : (encode cs).getLast? = some b) : cs.getLast? = some (Char.ofNat b.toNat) := by
  induction cs using List.reverseRecOn with
  | nil => cases h
  | append_singleton init c =>
    have hone : encode [c] = String.utf8EncodeChar c := List.flatMap_singleton ..
    rw [encode_append, hone, List.getLast?_append_of_ne_nil _ (encodeChar_ne_nil c)] at h
    rw [List.getLast?_concat, ← encodeChar_of_mem hb (List.mem_of_getLast? h)]

end ActionTree.Text.Utf8
