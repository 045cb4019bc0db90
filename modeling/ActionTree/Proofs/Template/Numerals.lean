import ActionTree.Proofs.Template.Escape

/-!
# Tokens of steps, for numerals of any length

A token of a step may be written with any number of digits, leading zeros included. As long as the
number is below `Token.bound`, the token is a reference: it is resolved to the output of that step,
or it is the error that the step failed or is unknown. From the bound on the numeral is no number of
a step, and the token is left in the text as it stands, whatever the log.

* `Token.numbered`: the token with some digits.
* `Template.Answers`: what a reference to a step has to be resolved to.
* `Template.resolve_numbered`, `Template.resolve_numbered_of_bound_le`: both sides of the bound.
* `Template.step_tokens_answer_below_bound`: the bound is where the answers end.
-/

namespace ActionTree

namespace Token

/-- The token of the step with a number that is written in some digits. -/
def numbered (ds : List Char) : String :=
  String.ofList ('$' :: ("step".toList ++ ds ++ "_result".toList))

theorem toList_numbered (ds : List Char) :
    (numbered ds).toList = '$' :: ("step".toList ++ ds ++ "_result".toList) := String.toList_ofList

variable {ds : List Char}

/-- A numeral from the bound on makes no token. -/
theorem token?_of_bound_le (hdigits : ∀ c ∈ ds, c.isDigit = true)
    (hbound : bound ≤ Text.number ds) :
    token? ("step".toList ++ ds ++ "_result".toList) = none := by
  have hstrip : strip? "step".toList ("step".toList ++ ds ++ "_result".toList) =
      some (ds ++ ("_result".toList ++ [])) :=
    strip?_eq_some_iff.2 (by rw [List.append_assoc, List.append_nil])
  have hout : strip? "_result".toList ("_result".toList ++ []) = some [] :=
    strip?_eq_some_iff.2 rfl
  have hnumber : Text.natural? bound ds = none := by
    rw [Option.eq_none_iff_forall_ne_some]
    intro n hn
    obtain ⟨-, -, hlt, rfl⟩ := Text.natural?_eq_some_iff.1 hn
    exact absurd hlt (Nat.not_lt_of_le hbound)
  simp only [token?, body?, hstrip, dropWhile_digits hdigits, takeWhile_digits hdigits, hout,
    hnumber, Option.map_none]

/-- Nothing has to be escaped in a text that only looks like a token. -/
theorem escape_numbered (hdigits : ∀ c ∈ ds, c.isDigit = true) (hbound : bound ≤ Text.number ds) :
    escape (numbered ds).toList = (numbered ds).toList := by
  have hrest := pass_escape.append (ne_dollar_of_digits hdigits) []
  rw [List.append_nil, escape, List.append_nil] at hrest
  rw [toList_numbered, escape_dollar (token?_of_bound_le hdigits hbound), hrest]

end Token

namespace Template

/-- What a reference to the step with a number has to be resolved to behind a log. -/
structure Answers (log : List Record) (n : Nat) (x : Except ReferenceError Json) : Prop where
  success : ∀ record, 1 ≤ n → log[n - 1]? = some record → record.success = true →
    x = .ok record.output
  failure : ∀ record, 1 ≤ n → log[n - 1]? = some record → record.success = false →
    x = .error (.failedStep n)
  unknown : n = 0 ∨ log.length < n → x = .error (.unknownStep n log.length)

theorem answers_lookup (log : List Record) (n : Nat) : Answers log n (lookup (.index n) log) where
  success record hpos hrecord hsuccess := by
    rw [lookup_of_known log (r := .index n) (Nat.ne_of_gt hpos) hrecord, hsuccess]
    rfl
  failure record hpos hrecord hfailed := by
    rw [lookup_of_known log (r := .index n) (Nat.ne_of_gt hpos) hrecord, hfailed]
    rfl
  unknown h := lookup_of_unknown log (r := .index n) h

variable {ds : List Char} (log : List Record)

/-- Below the bound a token of a step is a reference to it. -/
theorem resolve_numbered (hne : ds ≠ []) (hdigits : ∀ c ∈ ds, c.isDigit = true)
    (hbound : Text.number ds < Token.bound) :
    resolve log (compile (.str (Token.numbered ds))) =
      lookup (.index (Text.number ds)) log := by
  have hcuts : cuts (Token.numbered ds).toList = [.ref (.index (Text.number ds))] :=
    cuts_eq_ref_iff.2 ⟨_, Token.toList_numbered ds, .step hne hdigits hbound⟩
  rw [compile, compileString_eq_ref_iff.2 hcuts, resolve]

/-- From the bound on it is plain text. -/
theorem resolve_numbered_of_bound_le (hdigits : ∀ c ∈ ds, c.isDigit = true)
    (hbound : Token.bound ≤ Text.number ds) :
    resolve log (compile (.str (Token.numbered ds))) = .ok (.str (Token.numbered ds)) := by
  have hcuts := cuts_escape (Token.numbered ds).toList
  rw [Token.escape_numbered hdigits hbound] at hcuts
  rw [compile, compileString_eq_literal_iff.2 hcuts, resolve]

/-- **Numerals and steps.** A token of a step is resolved to what its number asks for if the number
is below the bound: to the output of a step that succeeded, and otherwise to the error that the step
failed or is unknown. From the bound on no step of a log has the number, but the token is resolved
to its own text and not to an error. -/
theorem step_tokens_answer_below_bound {ds : List Char} (hne : ds ≠ [])
    (hdigits : ∀ c ∈ ds, c.isDigit = true) (log : List Record) :
    (Text.number ds < Token.bound →
      Answers log (Text.number ds) (resolve log (compile (.str (Token.numbered ds))))) ∧
    (Token.bound ≤ Text.number ds →
      resolve log (compile (.str (Token.numbered ds))) = .ok (.str (Token.numbered ds)) ∧
      (log.length < Token.bound →
        ¬Answers log (Text.number ds) (resolve log (compile (.str (Token.numbered ds)))))) := by
  refine ⟨fun hbound => ?_, fun hbound => ?_⟩
  · rw [resolve_numbered log hne hdigits hbound]
    exact answers_lookup log _
  · have htext := resolve_numbered_of_bound_le log hdigits hbound
    refine ⟨htext, fun hlog hanswers => ?_⟩
    have hunknown := hanswers.unknown (.inr (Nat.lt_of_lt_of_le hlog hbound))
    rw [htext] at hunknown
    cases hunknown

/-- Leading zeros change nothing, and the greatest number below the bound is one of no step here. -/
theorem step_tokens_with_zeros_and_greatest :
    let log : List Record := [.ofOutput 1 .root (.obj []) (.int 5) .epoch,
      .ofFailure 2 .root (.obj []) .cancelled .epoch]
    resolve log (compile (.str "$step01_result")) = .ok (.int 5) ∧
      resolve log (compile (.str "$step002_result")) = .error (.failedStep 2) ∧
      resolve log (compile (.str "$step18446744073709551615_result")) =
        .error (.unknownStep 18446744073709551615 2) := by
  intro log
  have hanswers (ds : List Char) (hne : ds ≠ []) (hdigits : ds.all (·.isDigit) = true) :=
    step_tokens_answer_below_bound hne (List.all_eq_true.1 hdigits) log
  have hone := (hanswers "01".toList (List.cons_ne_nil _ _) rfl).1 (by decide +kernel)
  have htwo := (hanswers "002".toList (List.cons_ne_nil _ _) rfl).1 (by decide +kernel)
  have hgreatest := (hanswers "18446744073709551615".toList (List.cons_ne_nil _ _) rfl).1
    (by decide +kernel)
  exact ⟨hone.success _ (by decide) rfl rfl, htwo.failure _ (by decide) rfl rfl,
    hgreatest.unknown (.inr (by decide +kernel))⟩

/-- The least numeral that is no number of a step stays in the text. -/
theorem numeral_at_bound_is_text :
    let ds := "18446744073709551616".toList
    resolve [] (compile (.str (Token.numbered ds))) =
        .ok (.str "$step18446744073709551616_result") ∧
      ¬Answers [] (Text.number ds) (resolve [] (compile (.str (Token.numbered ds)))) := by
  intro ds
  have htext : resolve [] (compile (.str (Token.numbered ds))) =
      .ok (.str "$step18446744073709551616_result") :=
    resolve_numbered_of_bound_le [] (List.all_eq_true.1 rfl) (by decide +kernel)
  refine ⟨htext, fun hanswers => ?_⟩
  have hunknown := htext.symm.trans (hanswers.unknown (.inr (by decide +kernel)))
  cases hunknown

end Template

end ActionTree
