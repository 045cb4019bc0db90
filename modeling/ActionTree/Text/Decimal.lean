/-!
# Decimal digits

In the program: how it parses whole numbers.

* `number`: the number that digits denote.
* `natural?`: a text that is a number below a bound, with any number of leading zeros.
-/

namespace ActionTree.Text

/-- The number that decimal digits denote. -/
def number (ds : List Char) : Nat := ds.foldl (fun n c => 10 * n + (c.toNat - '0'.toNat)) 0

/-- The number below a bound that a text is: at least one digit, and nothing else. -/
def natural? (bound : Nat) (ds : List Char) : Option Nat :=
  if !ds.isEmpty && ds.all (·.isDigit) && number ds < bound then some (number ds) else none

theorem natural?_eq_some_iff {bound n : Nat} {ds : List Char} :
    natural? bound ds = some n ↔
      ds ≠ [] ∧ (∀ c ∈ ds, c.isDigit = true) ∧ n < bound ∧ number ds = n := by
  simp only [natural?, Bool.and_eq_true, Bool.not_eq_true', List.isEmpty_eq_false_iff,
    List.all_eq_true, decide_eq_true_eq, Option.ite_none_right_eq_some, Option.some.injEq]
  constructor
  · rintro ⟨⟨⟨h, d⟩, b⟩, rfl⟩
    exact ⟨h, d, b, rfl⟩
  · rintro ⟨h, d, b, rfl⟩
    exact ⟨⟨⟨h, d⟩, b⟩, rfl⟩

end ActionTree.Text
