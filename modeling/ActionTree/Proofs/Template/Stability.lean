import ActionTree.Proofs.Template.Passes
import ActionTree.Proofs.Template.Substitution

/-!
# References as a log grows

A reference by number means the same step behind every longer log, so a value whose references are
all by number keeps its result, and also the error that a step failed; only an unknown step may
become known. A reference to the latest step is another name of the number that the log ends with:
writing the number in its place changes neither the result nor the error. The number can be written
because the length of a log is below `Token.bound`: it fits in the word that numbers of steps are
read as.

* `Template.lookup_append`: what is known of a step stays so.
* `Token.renamed`, `Json.renamed`: the number in the place of the latest step.
* `cuts_renamed`: such a text is cut as before, with other references.
* `Template.numbered_references_are_stable`: both laws, and that the second makes values to which
  the first applies.
-/

namespace ActionTree

/-! ## Longer logs -/

namespace Template

variable {log : List Record} {v : Json} {n : Nat}

/-- What is known of the step with a number stays so: its output, or that it failed. -/
theorem lookup_append {x : Except ReferenceError Json} (h : lookup (.index n) log = x)
    (hknown : ∀ recorded, x ≠ .error (.unknownStep n recorded)) (more : List Record) :
    lookup (.index n) (log ++ more) = x := by
  have hstep : ¬(n = 0 ∨ log.length < n) := fun hunknown => by
    rw [lookup_of_unknown log (r := .index n) hunknown] at h
    exact hknown log.length h.symm
  have hpos : target log.length (.index n) ≠ 0 := fun hzero => hstep (.inl hzero)
  obtain ⟨record, hfound⟩ : ∃ record, log[n - 1]? = some record :=
    ⟨_, List.getElem?_eq_getElem (by omega)⟩
  have hrecord : (log ++ more)[n - 1]? = some record :=
    (List.getElem?_append_left (by omega)).trans hfound
  rw [lookup_of_known log hpos hfound] at h
  exact (lookup_of_known (log ++ more) (r := .index n) hpos hrecord).trans h

/-- A step is unknown if no record has its number. -/
theorem unknown_of_lookup {r : StepRef} {recorded : Nat}
    (h : lookup r log = .error (.unknownStep n recorded)) :
    recorded = log.length ∧ (n = 0 ∨ log.length < n) := by
  by_cases hunknown : target log.length r = 0 ∨ log.length < target log.length r
  · rw [lookup_of_unknown log hunknown] at h
    cases h
    exact ⟨rfl, hunknown⟩
  · obtain ⟨record, hrecord⟩ : ∃ record, log[target log.length r - 1]? = some record :=
      ⟨_, List.getElem?_eq_getElem (by omega)⟩
    rw [lookup_of_known log (by omega) hrecord] at h
    split at h <;> cases h

/-- A value with references by number keeps its result. -/
theorem resolve_append_of_ok {w : Json} (hindexed : ∀ r ∈ v.refs, ∃ n, r = .index n)
    (h : resolve log (compile v) = .ok w) (more : List Record) :
    resolve (log ++ more) (compile v) = .ok w := by
  obtain ⟨out, hout, rfl⟩ := exists_outputs h
  refine resolve_compile fun r hr => ?_
  obtain ⟨n, rfl⟩ := hindexed r hr
  exact lookup_append (hout _ hr) (by simp) more

/-- A value with references by number keeps the error that a step failed. -/
theorem resolve_append_of_failed {i : Nat} (hindexed : ∀ r ∈ v.refs, ∃ n, r = .index n)
    (h : resolve log (compile v) = .error (.failedStep i)) (more : List Record) :
    resolve (log ++ more) (compile v) = .error (.failedStep i) := by
  obtain ⟨good, bad, rest, hrefs, hbad, hgood⟩ := (resolve_eq_error_iff log).1 h
  rw [hrefs] at hindexed
  refine (resolve_eq_error_iff _).2 ⟨good, bad, rest, hrefs, ?_, fun r hr => ?_⟩
  · obtain ⟨n, rfl⟩ := hindexed bad (by simp)
    exact lookup_append hbad (by simp) more
  · obtain ⟨n, rfl⟩ := hindexed r (List.mem_append_left _ hr)
    obtain ⟨o, ho⟩ := hgood _ hr
    exact ⟨o, lookup_append ho (by simp) more⟩

end Template

/-! ## Numbers in the place of the latest step -/

/-- A reference to the latest step as one to the step with a number. -/
def StepRef.renamed (k : Nat) : StepRef → StepRef
  | .last => .index k
  | .index n => .index n

/-- A piece of a text with its reference renamed. -/
def Cut.renamed (k : Nat) : Cut → Cut
  | .char c => .char c
  | .ref r => .ref (r.renamed k)

namespace Token

/-- The body of the token of the step with a number. -/
def stepBody (k : Nat) : List Char := "step".toList ++ Nat.toDigits 10 k ++ "_result".toList

/-- A text with the token of the step with a number in the place of each token of the latest step,
unless a dollar sign in front of the token escapes it. The flag says whether the character in front
of the text is a dollar sign. -/
def renamed (k : Nat) (behindDollar : Bool) : List Char → List Char
  | [] => []
  | c :: rest =>
    if c = '$' ∧ behindDollar = false then
      match _h : token? rest with
      | some (.last, out) => '$' :: (stepBody k ++ renamed k false out)
      | _ => '$' :: renamed k true rest
    else c :: renamed k (c == '$') rest
termination_by cs => cs.length
decreasing_by
  · have := token?_length _h
    simp only [List.length_cons]
    omega
  · simp
  · simp

theorem body_stepBody {k : Nat} (hk : k < bound) : Body (stepBody k) (.index k) := by
  have hnumber : Text.number (Nat.toDigits 10 k) = k :=
    Nat.ofDigitChars_toDigits (by decide) (by decide)
  have hdigits : ∀ c ∈ Nat.toDigits 10 k, c.isDigit = true :=
    fun c hc => Nat.isDigit_of_mem_toDigits (by decide) (by decide) hc
  have hbody := Body.step Nat.toDigits_ne_nil hdigits (hnumber.symm ▸ hk)
  rwa [hnumber] at hbody

variable {k : Nat} {rest out : List Char}

theorem renamed_char {c : Char} (hc : c ≠ '$') (b : Bool) (rest : List Char) :
    renamed k b (c :: rest) = c :: renamed k false rest := by
  rw [renamed, if_neg fun h => hc h.1, beq_false_of_ne hc]

theorem renamed_behind_dollar (rest : List Char) :
    renamed k true ('$' :: rest) = '$' :: renamed k true rest := by
  rw [renamed, if_neg (by simp), beq_self_eq_true]

theorem renamed_last (h : token? rest = some (.last, out)) :
    renamed k false ('$' :: rest) = '$' :: (stepBody k ++ renamed k false out) := by
  rw [renamed, if_pos ⟨rfl, rfl⟩]
  split
  · rename_i hfound
    rw [h] at hfound
    cases hfound
    rfl
  · rename_i hnone
    exact absurd h (hnone out)

theorem renamed_dollar (h : ∀ out, token? rest ≠ some (.last, out)) :
    renamed k false ('$' :: rest) = '$' :: renamed k true rest := by
  rw [renamed, if_pos ⟨rfl, rfl⟩]
  split
  · rename_i hfound
    exact absurd hfound (h _)
  · rfl

/-- The flag matters for a text that starts with a dollar sign only. -/
theorem renamed_true (h : ∀ tail, rest ≠ '$' :: tail) :
    renamed k true rest = renamed k false rest := by
  cases rest with
  | nil => rw [renamed, renamed]
  | cons c tail =>
    have hc : c ≠ '$' := by
      rintro rfl
      exact h tail rfl
    rw [renamed_char hc, renamed_char hc]

/-- Renaming makes no token and breaks none. -/
theorem pass_renamed (k : Nat) : Pass (renamed k false) where
  head cs := by
    cases cs with
    | nil => rw [renamed]
    | cons c rest =>
      by_cases hc : c = '$'
      · subst hc
        by_cases hlast : ∃ out, token? rest = some (.last, out)
        · obtain ⟨out, hout⟩ := hlast
          rw [renamed_last hout]
          rfl
        · rw [renamed_dollar (not_exists.1 hlast)]
          rfl
      · rw [renamed_char hc]
        rfl
  char hc := renamed_char hc false

/-- Behind a dollar sign the body of a token is kept. -/
theorem renamed_true_append {body : List Char} {r : StepRef} (h : Body body r) (out : List Char) :
    renamed k true (body ++ out) = body ++ renamed k false out := by
  rw [renamed_true fun tail htail => ?_, (pass_renamed k).append h.ne_dollar]
  obtain ⟨c, body, rfl⟩ := List.exists_cons_of_ne_nil h.ne_nil
  rw [List.cons_append, List.cons.injEq] at htail
  exact h.ne_dollar c List.mem_cons_self htail.1

theorem token?_renamed_behind_dollar (h : token? rest = none) :
    token? (renamed k true rest) = none := by
  by_cases hdollar : ∃ tail, rest = '$' :: tail
  · obtain ⟨tail, rfl⟩ := hdollar
    rw [renamed_behind_dollar, token?_dollar]
  · rw [renamed_true (not_exists.1 hdollar), (pass_renamed k).token?, h, Option.map_none]

/-- A dollar sign that neither starts nor escapes a token does not do so in the renamed text. -/
theorem renamed_plain_dollar (hnone : token? rest = none)
    (hnext : ∀ tail, rest = '$' :: tail → token? tail = none) :
    renamed k false ('$' :: rest) = '$' :: renamed k false rest ∧
      ∀ tail, renamed k false rest = '$' :: tail → token? tail = none := by
  rw [renamed_dollar (by simp [hnone])]
  by_cases hdollar : ∃ tail, rest = '$' :: tail
  · obtain ⟨tail, rfl⟩ := hdollar
    have htail : token? tail = none := hnext tail rfl
    rw [renamed_behind_dollar, renamed_dollar (by simp [htail])]
    refine ⟨rfl, fun tail' heq => ?_⟩
    rw [← (List.cons.inj heq).2]
    exact token?_renamed_behind_dollar htail
  · rw [renamed_true (not_exists.1 hdollar)]
    refine ⟨rfl, fun tail' heq => ?_⟩
    have hhead : rest.head? = some '$' := by rw [← (pass_renamed k).head, heq]; rfl
    exact absurd (List.head?_eq_some_iff.1 hhead) hdollar

end Token

/-- A renamed text is cut as the text is, with its references renamed. -/
theorem cuts_renamed {k : Nat} (hk : k < Token.bound) (cs : List Char) :
    cuts (Token.renamed k false cs) = (cuts cs).map (Cut.renamed k) := by
  have hpass := Token.pass_renamed k
  induction cs using cut_induction with
  | nil => rw [Token.renamed, cuts, List.map_nil]
  | char c rest hc ih =>
    rw [hpass.char hc, cuts_char hc, cuts_char hc, ih, List.map_cons]
    rfl
  | reference rest r out htoken ih =>
    rw [cuts_reference htoken, List.map_cons, ← ih]
    cases r with
    | last =>
      -- The new token ends where the old one did, because the pass keeps what is behind it.
      obtain ⟨-, -, -, hend⟩ := Token.token?_eq_some_iff.1 htoken
      rw [Token.renamed_last htoken]
      refine cuts_reference (Token.token?_eq_some_iff.2 ⟨_, rfl, Token.body_stepBody hk, ?_⟩)
      rwa [hpass.atBoundary]
    | index n =>
      have hrenamed : Token.token? (Token.renamed k false rest) =
          some (.index n, Token.renamed k false out) := by
        rw [hpass.token?, htoken, Option.map_some]
      obtain ⟨body, rfl, hbody, -⟩ := Token.token?_eq_some_iff.1 htoken
      rw [Token.renamed_dollar (by simp [htoken]), Token.renamed_true_append hbody,
        ← hpass.append hbody.ne_dollar]
      exact cuts_reference hrenamed
  | escaped rest r out htoken ih =>
    -- The flag keeps the token behind the second dollar sign, whichever step it names.
    have hrenamed : Token.token? (Token.renamed k false rest) =
        some (r, Token.renamed k false out) := by
      rw [hpass.token?, htoken, Option.map_some]
    obtain ⟨body, rfl, hbody, -⟩ := Token.token?_eq_some_iff.1 htoken
    rw [hpass.append hbody.ne_dollar] at hrenamed
    rw [Token.renamed_dollar (by simp [Token.token?_dollar]), Token.renamed_behind_dollar,
      Token.renamed_true_append hbody, cuts_escaped hrenamed, cuts_escaped htoken, ih,
      List.map_cons, List.map_append, List.map_map]
    rfl
  | dollar rest hnone hnext ih =>
    obtain ⟨hrenamed, hnext'⟩ := Token.renamed_plain_dollar (k := k) hnone hnext
    have hnone' : Token.token? (Token.renamed k false rest) = none := by
      rw [hpass.token?, hnone, Option.map_none]
    rw [hrenamed, cuts_dollar hnone' hnext', cuts_dollar hnone hnext, ih, List.map_cons]
    rfl

/-! ## Renamed values -/

/-- A segment with its reference renamed. -/
def Segment.renamed (k : Nat) : Segment → Segment
  | .text t => .text t
  | .ref r => .ref (r.renamed k)

/-- A string with numbers in the place of the latest step. -/
def Json.renamedString (k : Nat) (s : String) : Json :=
  .str (String.ofList (Token.renamed k false s.toList))

/-- A value with numbers in the place of the latest step in all its strings. Keys stay. -/
def Json.renamed (k : Nat) (v : Json) : Json := v.mapStrings (renamedString k)

/-- A renamed value has references by number only. -/
theorem Json.refs_renamed {k : Nat} (hk : k < Token.bound) (v : Json) :
    ∀ r ∈ (v.renamed k).refs, ∃ n, r = .index n := by
  intro r hr
  rw [Json.renamed, mem_refs_iff, texts_mapStrings] at hr
  obtain ⟨text, htext, hcut⟩ := hr
  obtain ⟨s, -, hs⟩ := List.mem_flatMap.1 htext
  obtain rfl := List.mem_singleton.1 hs
  rw [String.toList_ofList, cuts_renamed hk, List.mem_map] at hcut
  obtain ⟨cut, -, hcut⟩ := hcut
  match cut, hcut with
  | .ref .last, rfl => exact ⟨k, rfl⟩
  | .ref (.index n), rfl => exact ⟨n, rfl⟩

namespace Template

theorem pushChar_renamed (k : Nat) (c : Char) (rest : List (List Char ⊕ StepRef)) :
    pushChar c (rest.map (Sum.map id (StepRef.renamed k))) =
      (pushChar c rest).map (Sum.map id (StepRef.renamed k)) := by
  rcases rest with _ | ⟨cs | r, rest⟩ <;> rfl

theorem runs_renamed (k : Nat) (cs : List Cut) :
    runs (cs.map (Cut.renamed k)) = (runs cs).map (Sum.map id (StepRef.renamed k)) := by
  induction cs with
  | nil => rfl
  | cons cut rest ih =>
    cases cut with
    | char c => rw [List.map_cons, Cut.renamed, runs, ih, pushChar_renamed, runs]
    | ref r =>
      rw [List.map_cons, Cut.renamed, runs, ih, runs]
      rfl

variable (log : List Record)

/-- The number of the latest step means the latest step. -/
theorem lookup_renamed (r : StepRef) : lookup (r.renamed log.length) log = lookup r log := by
  cases r <;> rfl

theorem interpolate_renamed (segments : List Segment) :
    interpolate log (segments.map (Segment.renamed log.length)) = interpolate log segments := by
  induction segments with
  | nil => rfl
  | cons s rest ih =>
    cases s with
    | text t => rw [List.map_cons, Segment.renamed, interpolate, interpolate, ih]
    | ref r => rw [List.map_cons, Segment.renamed, interpolate, interpolate, ih, lookup_renamed]

theorem resolve_ofSegments_renamed (segments : List Segment) :
    resolve log (ofSegments (segments.map (Segment.renamed log.length))) =
      resolve log (ofSegments segments) := by
  match segments with
  | [] => rfl
  | [.text t] => rfl
  | [.ref r] => exact lookup_renamed log r
  | a :: b :: rest =>
    have hlonger (a b : Segment) (rest : List Segment) :
        ofSegments (a :: b :: rest) = .interpolated (a :: b :: rest) := by cases a <;> rfl
    rw [List.map_cons, List.map_cons, hlonger, hlonger, resolve, resolve, ← List.map_cons,
      ← List.map_cons, interpolate_renamed]

variable {log}

/-- Behind a log a string and the string with the number of its latest step are resolved alike. -/
theorem resolve_renamedString (hlog : log.length < Token.bound) (s : String) :
    resolve log (compile (.renamedString log.length s)) = resolve log (compile (.str s)) := by
  have hsegment (x : List Char ⊕ StepRef) : segment (x.map id (StepRef.renamed log.length)) =
      (segment x).renamed log.length := by cases x <;> rfl
  have hsegments (xs : List (List Char ⊕ StepRef)) :
      (xs.map (Sum.map id (StepRef.renamed log.length))).map segment =
        (xs.map segment).map (Segment.renamed log.length) := by
    simp only [List.map_map, Function.comp_def, hsegment]
  rw [Json.renamedString, compile, compile, compileString, compileString, String.toList_ofList,
    cuts_renamed hlog, runs_renamed, hsegments, resolve_ofSegments_renamed]

/-- Behind a log a value and the value with the number of its latest step are resolved alike. -/
theorem resolve_renamed (hlog : log.length < Token.bound) (v : Json) :
    resolve log (compile (v.renamed log.length)) = resolve log (compile v) := by
  have hresolve := resolve_mapStrings_congr (g := .str) (resolve_renamedString hlog) v
  rwa [Json.mapStrings_str] at hresolve

/-- **References as a log grows.** A value whose references are all by number is resolved to the
same value behind every longer log, and the error that a step failed stays. The token of the latest
step means the number that the log ends with. -/
theorem numbered_references_are_stable :
    (∀ v : Json, (∀ r ∈ v.refs, ∃ n, r = .index n) → ∀ log more : List Record,
      (∀ w, resolve log (compile v) = .ok w → resolve (log ++ more) (compile v) = .ok w) ∧
      (∀ i, resolve log (compile v) = .error (.failedStep i) →
        resolve (log ++ more) (compile v) = .error (.failedStep i)) ∧
      ∀ n recorded, resolve log (compile v) = .error (.unknownStep n recorded) →
        recorded = log.length ∧ (n = 0 ∨ log.length < n)) ∧
    ∀ (v : Json) (log : List Record), log.length < Token.bound →
      resolve log (compile (v.renamed log.length)) = resolve log (compile v) ∧
      ∀ r ∈ (v.renamed log.length).refs, ∃ n, r = .index n := by
  refine ⟨fun v hindexed log more => ⟨fun w h => ?_, fun i h => ?_, fun n recorded h => ?_⟩,
    fun v log hlog => ⟨resolve_renamed hlog v, Json.refs_renamed hlog v⟩⟩
  · exact resolve_append_of_ok hindexed h more
  · exact resolve_append_of_failed hindexed h more
  · obtain ⟨-, bad, -, -, hbad, -⟩ := (resolve_eq_error_iff log).1 h
    exact unknown_of_lookup hbad

/-- The alias of the first step is its number, which stays when the log grows; the escaped token is
no alias. -/
theorem alias_of_first_step :
    let v : Json := .str "$last_result or $$last_result"
    let log : List Record := [.ofOutput 1 .root (.obj []) (.int 5) .epoch]
    v.renamed 1 = .str "$step1_result or $$last_result" ∧
      ∀ more, resolve (log ++ more) (compile (v.renamed 1)) = .ok (.str "5 or $last_result") := by
  intro v log
  have htext : Token.renamed 1 false "$last_result or $$last_result".toList =
      "$step1_result or $$last_result".toList := by decide +kernel
  have hrenamed : v.renamed 1 = .str "$step1_result or $$last_result" := by
    rw [Json.renamed, Json.mapStrings, Json.renamedString, htext, String.ofList_toList]
  have hcuts : cuts "$last_result or $$last_result".toList =
      .ref .last :: " or $last_result".toList.map .char := by decide +kernel
  have hresolve : resolve log (compile v) = .ok (.str "5 or $last_result") := by
    rw [compile, compileString, hcuts]
    rfl
  obtain ⟨hstable, halias⟩ := numbered_references_are_stable
  obtain ⟨heq, hindexed⟩ := halias v log (by decide +kernel)
  exact ⟨hrenamed, fun more => (hstable _ hindexed log more).1 _ (heq.trans hresolve)⟩

end Template

end ActionTree
