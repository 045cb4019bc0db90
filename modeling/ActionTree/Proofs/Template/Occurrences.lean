import ActionTree.Template.Token
import Mathlib.Data.List.Basic

/-!
# Where tokens stand

Whether a reference stands at a position of a text depends on the characters around it alone: there
is a dollar sign, the body of a token and the end of a name behind it, and no other dollar sign in
front of it. The text is cut by this rule, although the cutting goes from left to right and looks
ahead.

* `Token.Body`: the bodies of tokens; `token?_eq_some_iff`: where one is read.
* `Token.occurrence?`, `Token.reference?`: a token at a position, and one that is not escaped.
* `Token.pieceAt`: what a position contributes.
* `cuts_eq`: a text is cut into what its positions contribute.
-/

namespace ActionTree

namespace Token

/-! ## Bodies -/

/-- The bodies of tokens, with the step that they mean. -/
inductive Body : List Char → StepRef → Prop
  | step {ds : List Char} (hne : ds ≠ []) (hdigits : ∀ c ∈ ds, c.isDigit = true)
      (hbound : Text.number ds < bound) :
      Body ("step".toList ++ ds ++ "_result".toList) (.index (Text.number ds))
  | last : Body "last_result".toList .last

/-- No dollar sign is in a numeral with the words around it. -/
theorem ne_dollar_of_digits {ds : List Char} (hdigits : ∀ c ∈ ds, c.isDigit = true) :
    ∀ c ∈ "step".toList ++ ds ++ "_result".toList, c ≠ '$' := by
  rintro c hc rfl
  simp only [List.mem_append] at hc
  rcases hc with (hc | hc) | hc
  · simp at hc
  · exact absurd (hdigits _ hc) (by decide)
  · simp at hc

/-- No dollar sign is in a body. -/
theorem Body.ne_dollar {body : List Char} {r : StepRef} (h : Body body r) :
    ∀ c ∈ body, c ≠ '$' := by
  cases h with
  | step _ hdigits => exact ne_dollar_of_digits hdigits
  | last =>
    rintro c hc rfl
    simp at hc

theorem Body.ne_nil {body : List Char} {r : StepRef} (h : Body body r) : body ≠ [] := by
  cases h <;> simp

theorem takeWhile_digits {ds : List Char} (hdigits : ∀ c ∈ ds, c.isDigit = true)
    (rest : List Char) :
    (ds ++ ("_result".toList ++ rest)).takeWhile (·.isDigit) = ds := by
  rw [List.takeWhile_append_of_pos hdigits]
  exact List.append_nil ds

theorem dropWhile_digits {ds : List Char} (hdigits : ∀ c ∈ ds, c.isDigit = true)
    (rest : List Char) :
    (ds ++ ("_result".toList ++ rest)).dropWhile (·.isDigit) = "_result".toList ++ rest := by
  rw [List.dropWhile_append_of_pos hdigits]
  rfl

/-- What is read for a body starts with one. -/
theorem exists_body {cs rest : List Char} {r : StepRef} (h : body? cs = some (r, rest)) :
    ∃ body, cs = body ++ rest ∧ Body body r := by
  unfold body? at h
  split at h
  · rename_i mid hmid
    split at h
    · rename_i out hout
      obtain ⟨n, hn, hr⟩ := Option.map_eq_some_iff.1 h
      cases hr
      obtain ⟨hne, hdigits, hbound, rfl⟩ := Text.natural?_eq_some_iff.1 hn
      refine ⟨_, ?_, .step hne hdigits hbound⟩
      rw [List.append_assoc, List.append_assoc, ← strip?_eq_some_iff.1 hout,
        List.takeWhile_append_dropWhile, strip?_eq_some_iff.1 hmid]
    · cases h
  · obtain ⟨out, hout, hr⟩ := Option.map_eq_some_iff.1 h
    cases hr
    exact ⟨_, strip?_eq_some_iff.1 hout, .last⟩

/-- A body is read, whatever follows it. -/
theorem Body.body?_append {body : List Char} {r : StepRef} (h : Body body r) (rest : List Char) :
    body? (body ++ rest) = some (r, rest) := by
  have hout (word : List Char) : strip? word (word ++ rest) = some rest :=
    strip?_eq_some_iff.2 rfl
  cases h with
  | @step ds hne hdigits hbound =>
    have hstrip : strip? "step".toList ("step".toList ++ ds ++ "_result".toList ++ rest) =
        some (ds ++ ("_result".toList ++ rest)) :=
      strip?_eq_some_iff.2 (by simp only [List.append_assoc])
    have hnumber : Text.natural? bound ds = some (Text.number ds) :=
      Text.natural?_eq_some_iff.2 ⟨hne, hdigits, hbound, rfl⟩
    simp only [body?, hstrip, dropWhile_digits hdigits, takeWhile_digits hdigits, hout, hnumber,
      Option.map_some]
  | last =>
    have hstrip : strip? "step".toList ("last_result".toList ++ rest) = none := rfl
    simp only [body?, hstrip, hout, Option.map_some]

theorem body?_eq_some_iff {cs rest : List Char} {r : StepRef} :
    body? cs = some (r, rest) ↔ ∃ body, cs = body ++ rest ∧ Body body r := by
  refine ⟨exists_body, ?_⟩
  rintro ⟨body, rfl, hbody⟩
  exact hbody.body?_append rest

/-- A token is read where a body stands with the end of a name behind it. -/
theorem token?_eq_some_iff {cs rest : List Char} {r : StepRef} :
    token? cs = some (r, rest) ↔
      ∃ body, cs = body ++ rest ∧ Body body r ∧ atBoundary rest = true := by
  have hiff : token? cs = some (r, rest) ↔
      body? cs = some (r, rest) ∧ atBoundary rest = true := by
    unfold token?
    cases body? cs with
    | none => simp
    | some found =>
      obtain ⟨r', rest'⟩ := found
      simp only [Option.ite_none_right_eq_some, Option.some.injEq, Prod.mk.injEq]
      constructor
      · rintro ⟨hend, rfl, rfl⟩
        exact ⟨⟨rfl, rfl⟩, hend⟩
      · rintro ⟨⟨rfl, rfl⟩, hend⟩
        exact ⟨hend, rfl, rfl⟩
  rw [hiff, body?_eq_some_iff]
  constructor
  · rintro ⟨⟨body, hcs, hbody⟩, hend⟩
    exact ⟨body, hcs, hbody, hend⟩
  · rintro ⟨body, hcs, hbody, hend⟩
    exact ⟨⟨body, hcs, hbody⟩, hend⟩

/-! ## Positions -/

/-- The token at a position, with the length of its body. -/
def occurrence? (cs : List Char) (i : Nat) : Option (StepRef × Nat) :=
  match cs.drop i with
  | '$' :: rest => (token? rest).map fun (r, out) => (r, rest.length - out.length)
  | _ => none

/-- Is a dollar sign in front of a position? -/
def escaped (cs : List Char) : Nat → Bool
  | 0 => false
  | i + 1 => cs[i]? == some '$'

/-- The token at a position, if it is not escaped. -/
def reference? (cs : List Char) (i : Nat) : Option (StepRef × Nat) :=
  if escaped cs i then none else occurrence? cs i

/-- Does a reference that starts before a position reach it? -/
def reached (cs : List Char) (i : Nat) : Bool :=
  (List.range i).any fun j => (reference? cs j).any fun found => decide (i ≤ j + found.2)

/-- Is a position that of a dollar sign that escapes a token? -/
def escapes (cs : List Char) (i : Nat) : Bool :=
  cs[i]? == some '$' && (occurrence? cs (i + 1)).isSome

/-- What a position contributes: a reference where one starts, nothing inside of it and where a
token is escaped, and its character elsewhere. -/
def pieceAt (cs : List Char) (i : Nat) : List Cut :=
  match reference? cs i with
  | some (r, _) => [.ref r]
  | none => if reached cs i || escapes cs i then [] else (cs[i]?.map .char).toList

theorem occurrence?_eq_some_iff {cs : List Char} {i n : Nat} {r : StepRef} :
    occurrence? cs i = some (r, n) ↔
      ∃ body rest, cs.drop i = '$' :: (body ++ rest) ∧ body.length = n ∧ Body body r ∧
        atBoundary rest = true := by
  unfold occurrence?
  split
  · rename_i text hdrop
    rw [hdrop, Option.map_eq_some_iff]
    constructor
    · rintro ⟨⟨r', rest⟩, htoken, hfound⟩
      obtain ⟨body, rfl, hbody, hend⟩ := token?_eq_some_iff.1 htoken
      simp only [Prod.mk.injEq, List.length_append, Nat.add_sub_cancel] at hfound
      exact ⟨body, rest, rfl, hfound.2, hfound.1 ▸ hbody, hend⟩
    · rintro ⟨body, rest, htext, hlength, hbody, hend⟩
      obtain rfl : text = body ++ rest := (List.cons.inj htext).2
      refine ⟨(r, rest), token?_eq_some_iff.2 ⟨body, rfl, hbody, hend⟩, ?_⟩
      simp [hlength]
  · rename_i hdrop
    refine ⟨nofun, ?_⟩
    rintro ⟨body, rest, hstart, -⟩
    exact absurd hstart (hdrop _)

theorem getElem?_of_occurrence? {cs : List Char} {i : Nat} {found : StepRef × Nat}
    (h : occurrence? cs i = some found) : cs[i]? = some '$' := by
  obtain ⟨r, n⟩ := found
  obtain ⟨body, rest, hdrop, -⟩ := occurrence?_eq_some_iff.1 h
  rw [← List.head?_drop, hdrop, List.head?_cons]

/-- Tokens start at dollar signs only. -/
theorem occurrence?_eq_none {cs : List Char} {i : Nat} (h : cs[i]? ≠ some '$') :
    occurrence? cs i = none :=
  Option.eq_none_iff_forall_ne_some.2 fun _ hfound => h (getElem?_of_occurrence? hfound)

theorem reference?_eq_none {cs : List Char} {i : Nat} (h : cs[i]? ≠ some '$') :
    reference? cs i = none := by
  rw [reference?, occurrence?_eq_none h, ite_self]

/-- A dollar sign starts a token if the body of one is behind it. -/
theorem occurrence?_dollar_eq_none_iff {cs : List Char} :
    occurrence? ('$' :: cs) 0 = none ↔ token? cs = none := Option.map_eq_none_iff

theorem occurrence?_of_body {body rest : List Char} {r : StepRef} (hbody : Body body r)
    (hend : atBoundary rest = true) :
    occurrence? ('$' :: (body ++ rest)) 0 = some (r, body.length) :=
  occurrence?_eq_some_iff.2 ⟨body, rest, rfl, rfl, hbody, hend⟩

/-- A body does not start with a dollar sign. -/
theorem occurrence?_of_dollars (cs : List Char) : occurrence? ('$' :: '$' :: cs) 0 = none := by
  rw [occurrence?_dollar_eq_none_iff, Option.eq_none_iff_forall_ne_some]
  rintro ⟨r, rest⟩ hfound
  obtain ⟨body, hcs, hbody, -⟩ := token?_eq_some_iff.1 hfound
  obtain ⟨c, body, rfl⟩ := List.exists_cons_of_ne_nil hbody.ne_nil
  exact hbody.ne_dollar c (by simp) (List.cons.inj hcs).1.symm

/-- Inside of a reference nothing is contributed. -/
theorem pieceAt_of_reached {cs : List Char} {i j n : Nat} {r : StepRef}
    (hfound : reference? cs j = some (r, n)) (hj : j < i) (hi : i ≤ j + n)
    (hi' : cs[i]? ≠ some '$') : pieceAt cs i = [] := by
  have hreached : reached cs i = true := by
    rw [reached, List.any_eq_true]
    exact ⟨j, List.mem_range.2 hj, by simpa [hfound] using hi⟩
  rw [pieceAt, reference?_eq_none hi']
  simp only [hreached, Bool.true_or, ↓reduceIte]

/-- What follows a position decides on a token there. -/
theorem occurrence?_append (before cs : List Char) (i : Nat) :
    occurrence? (before ++ cs) (before.length + i) = occurrence? cs i := by
  rw [occurrence?, occurrence?, List.drop_length_add_append]

theorem occurrence?_length (before cs : List Char) :
    occurrence? (before ++ cs) before.length = occurrence? cs 0 :=
  occurrence?_append before cs 0

theorem escaped_length (before cs : List Char) :
    escaped (before ++ cs) before.length = (before.getLast? == some '$') := by
  rcases List.eq_nil_or_concat before with rfl | ⟨init, c, rfl⟩
  · rfl
  · simp [escaped]

/-! ## From left to right -/

/-- What the positions of the rest of a text contribute. -/
def piecesBehind (before cs : List Char) : List Cut :=
  (List.range cs.length).flatMap fun i => pieceAt (before ++ cs) (before.length + i)

theorem piecesBehind_cons (before : List Char) (c : Char) (cs : List Char) :
    piecesBehind before (c :: cs) =
      pieceAt (before ++ c :: cs) before.length ++ piecesBehind (before ++ [c]) cs := by
  have hplace (i : Nat) : (before ++ [c]).length + i = before.length + (i + 1) := by
    rw [List.length_append, List.length_singleton]
    omega
  simp only [piecesBehind, List.length_cons, List.range_succ_eq_map, List.flatMap_cons,
    List.flatMap_map, Nat.add_zero, Nat.succ_eq_add_one, hplace, List.append_assoc,
    List.singleton_append]

/-- Positions that contribute nothing can be left out. -/
theorem piecesBehind_append_of_nil {before block rest : List Char}
    (h : ∀ i < block.length, pieceAt (before ++ (block ++ rest)) (before.length + i) = []) :
    piecesBehind before (block ++ rest) = piecesBehind (before ++ block) rest := by
  induction block generalizing before with
  | nil => rw [List.nil_append, List.append_nil]
  | cons c block ih =>
    have hfirst := h 0 (Nat.zero_lt_succ _)
    have hnext : piecesBehind (before ++ [c]) (block ++ rest) =
        piecesBehind (before ++ [c] ++ block) rest := ih fun i hi => by
      have hi := h (i + 1) (Nat.succ_lt_succ hi)
      rw [List.length_append, List.length_singleton, List.append_assoc, Nat.add_assoc,
        Nat.add_comm 1]
      exact hi
    rw [List.cons_append, piecesBehind_cons, ← List.cons_append]
    rw [Nat.add_zero] at hfirst
    rw [hfirst, hnext, List.nil_append, List.append_assoc, List.singleton_append]

/-- No reference in front of a place reaches it. -/
def Free (before cs : List Char) : Prop :=
  ∀ j r n, j < before.length → reference? (before ++ cs) j = some (r, n) → j + n < before.length

theorem Free.reached {before cs : List Char} (h : Free before cs) :
    reached (before ++ cs) before.length = false := by
  rw [← Bool.not_eq_true, Token.reached, List.any_eq_true]
  rintro ⟨j, hj, hreach⟩
  obtain ⟨⟨r, n⟩, hfound, hn⟩ := (Option.any_eq_true ..).1 hreach
  have := h j r n (List.mem_range.1 hj) hfound
  simp only [decide_eq_true_eq] at hn
  omega

/-- A character at which no reference starts. -/
theorem Free.cons {before cs : List Char} {c : Char} (h : Free before (c :: cs))
    (hnone : reference? (before ++ c :: cs) before.length = none) : Free (before ++ [c]) cs := by
  intro j r n hj hfound
  rw [List.append_assoc, List.singleton_append] at hfound
  rw [List.length_append, List.length_singleton] at hj ⊢
  rcases Nat.lt_succ_iff_lt_or_eq.1 hj with hj | rfl
  · have := h j r n hj hfound
    omega
  · rw [hnone] at hfound
    cases hfound

theorem Body.getElem?_ne_dollar {body : List Char} {r : StepRef} (h : Body body r)
    (before rest : List Char) {i : Nat} (hi : i < body.length) :
    (before ++ '$' :: (body ++ rest))[before.length + 1 + i]? ≠ some '$' := by
  rw [List.getElem?_append_right (by omega),
    show before.length + 1 + i - before.length = i + 1 by omega, List.getElem?_cons_succ,
    List.getElem?_append_left hi]
  exact fun hdollar => h.ne_dollar _ (List.mem_of_getElem? hdollar) rfl

/-- A reference does not reach the place behind its body. -/
theorem Free.token {before body rest : List Char} {r : StepRef} (hbody : Body body r)
    (h : Free before ('$' :: (body ++ rest)))
    (hfound : reference? (before ++ '$' :: (body ++ rest)) before.length =
      some (r, body.length)) : Free (before ++ '$' :: body) rest := by
  intro j r' n hj hfound'
  rw [List.append_assoc, List.cons_append] at hfound'
  rw [List.length_append, List.length_cons] at hj ⊢
  rcases Nat.lt_trichotomy j before.length with hlt | rfl | hgt
  · have := h j r' n hlt hfound'
    omega
  · rw [hfound] at hfound'
    cases hfound'
    omega
  -- Inside of the body no reference starts.
  · have hnone := hbody.getElem?_ne_dollar before rest (i := j - before.length - 1) (by omega)
    rw [show before.length + 1 + (j - before.length - 1) = j by omega] at hnone
    rw [reference?_eq_none hnone] at hfound'
    cases hfound'

/-- A character that starts and escapes nothing stands for itself. -/
theorem pieceAt_char {before cs : List Char} {c : Char} (hfree : Free before (c :: cs))
    (hnone : reference? (before ++ c :: cs) before.length = none)
    (hplain : c = '$' → occurrence? cs 0 = none) :
    pieceAt (before ++ c :: cs) before.length = [.char c] := by
  have hchar : (before ++ c :: cs)[before.length]? = some c := by simp
  have hescapes : escapes (before ++ c :: cs) before.length = false := by
    have hnext : occurrence? (before ++ c :: cs) (before.length + 1) = occurrence? cs 0 := by
      rw [occurrence?_append]
      rfl
    rw [escapes, hchar, hnext, Bool.and_eq_false_iff]
    by_cases hc : c = '$'
    · exact .inr (by rw [hplain hc]; rfl)
    · exact .inl (by simpa using hc)
  rw [pieceAt, hnone]
  simp only [hfree.reached, hescapes, hchar, Bool.or_self, Bool.false_eq_true, ↓reduceIte,
    Option.map_some, Option.toList_some]

/-- Characters other than dollar signs stand for themselves. -/
theorem piecesBehind_plain {before block rest : List Char} (hblock : ∀ c ∈ block, c ≠ '$')
    (h : Free before (block ++ rest)) :
    piecesBehind before (block ++ rest) =
        block.map .char ++ piecesBehind (before ++ block) rest ∧
      Free (before ++ block) rest := by
  induction block generalizing before with
  | nil => exact ⟨by simp, by rwa [List.append_nil]⟩
  | cons c block ih =>
    obtain ⟨hc, hblock⟩ := List.forall_mem_cons.1 hblock
    have hnone : reference? (before ++ c :: (block ++ rest)) before.length = none :=
      reference?_eq_none (by simpa using hc)
    obtain ⟨hpieces, hfree⟩ := ih hblock (h.cons hnone)
    have hpiece := pieceAt_char h hnone fun hd => absurd hd hc
    rw [List.append_assoc, List.singleton_append] at hpieces hfree
    refine ⟨?_, hfree⟩
    rw [List.cons_append, piecesBehind_cons, hpieces]
    exact congrArg (· ++ _) hpiece

/-- Between the tokens of a text: nothing in front of a place reaches it, and no token behind it is
escaped. -/
structure Between (before cs : List Char) : Prop where
  free : Free before cs
  unescaped : before.getLast? = some '$' → occurrence? cs 0 = none

/-- Behind a character that is no dollar sign nothing is escaped. -/
theorem Between.of_ne {before cs : List Char} {c : Char} (h : Free before cs)
    (hlast : before.getLast? = some c) (hc : c ≠ '$') : Between before cs :=
  ⟨h, fun hdollar => absurd (Option.some.inj (hlast.symm.trans hdollar)) hc⟩

/-- Behind the body of a token nothing is escaped. -/
theorem Between.of_body {before body rest : List Char} {r : StepRef} (hbody : Body body r)
    (h : Free (before ++ body) rest) : Between (before ++ body) rest := by
  obtain ⟨init, c, rfl⟩ := (List.eq_nil_or_concat body).resolve_left hbody.ne_nil
  refine .of_ne h ?_ (hbody.ne_dollar c (by simp))
  simp

theorem Between.start (cs : List Char) : Between [] cs :=
  ⟨fun _ _ _ hj => absurd hj (Nat.not_lt_zero _), nofun⟩

/-- A dollar sign at which no token starts. -/
theorem Between.dollar {before cs : List Char} (h : Between before ('$' :: cs))
    (hnone : occurrence? ('$' :: cs) 0 = none) (hnext : occurrence? cs 0 = none) :
    piecesBehind before ('$' :: cs) = .char '$' :: piecesBehind (before ++ ['$']) cs ∧
      Between (before ++ ['$']) cs := by
  have hreference : reference? (before ++ '$' :: cs) before.length = none := by
    rw [reference?, occurrence?_length, hnone, ite_self]
  refine ⟨?_, h.free.cons hreference, fun _ => hnext⟩
  rw [piecesBehind_cons, pieceAt_char h.free hreference fun _ => hnext]
  rfl

/-- A token that is not escaped. -/
theorem Between.reference {before body rest : List Char} {r : StepRef} (hbody : Body body r)
    (hend : atBoundary rest = true) (h : Between before ('$' :: (body ++ rest))) :
    piecesBehind before ('$' :: (body ++ rest)) =
        .ref r :: piecesBehind (before ++ '$' :: body) rest ∧
      Between (before ++ '$' :: body) rest := by
  have hfound := occurrence?_of_body hbody hend
  -- A dollar sign in front of it would escape the token, and between tokens there is none.
  have hunescaped : escaped (before ++ '$' :: (body ++ rest)) before.length = false := by
    rw [escaped_length, beq_eq_false_iff_ne]
    intro hdollar
    rw [h.unescaped hdollar] at hfound
    cases hfound
  have hreference : reference? (before ++ '$' :: (body ++ rest)) before.length =
      some (r, body.length) := by
    rw [reference?, hunescaped, occurrence?_length, hfound]
    rfl
  have hpiece : pieceAt (before ++ '$' :: (body ++ rest)) before.length = [.ref r] := by
    rw [pieceAt, hreference]
  refine ⟨?_, ?_⟩
  · rw [piecesBehind_cons, hpiece, piecesBehind_append_of_nil, List.append_assoc]
    · rfl
    · intro i hi
      rw [List.append_assoc, List.singleton_append, List.length_append, List.length_singleton]
      exact pieceAt_of_reached hreference (by omega) (by omega)
        (hbody.getElem?_ne_dollar before rest hi)
  · have hfree := h.free.token hbody hreference
    rw [show before ++ '$' :: body = before ++ ['$'] ++ body by simp] at hfree ⊢
    exact .of_body hbody hfree

/-- An escaped token. -/
theorem Between.escape {before body rest : List Char} {r : StepRef} (hbody : Body body r)
    (hend : atBoundary rest = true) (h : Between before ('$' :: '$' :: (body ++ rest))) :
    piecesBehind before ('$' :: '$' :: (body ++ rest)) =
        .char '$' :: (body.map .char ++ piecesBehind (before ++ '$' :: '$' :: body) rest) ∧
      Between (before ++ '$' :: '$' :: body) rest := by
  -- The first dollar sign contributes nothing, the second one itself.
  have hfirst : reference? (before ++ '$' :: '$' :: (body ++ rest)) before.length = none := by
    rw [reference?, occurrence?_length, occurrence?_of_dollars, ite_self]
  have hescapes : escapes (before ++ '$' :: '$' :: (body ++ rest)) before.length = true := by
    rw [escapes, occurrence?_append]
    have hfound := occurrence?_of_body hbody hend
    rw [occurrence?] at hfound ⊢
    simpa using congrArg Option.isSome hfound
  have hnothing : pieceAt (before ++ '$' :: '$' :: (body ++ rest)) before.length = [] := by
    rw [pieceAt, hfirst]
    simp only [hescapes, Bool.or_true, ↓reduceIte]
  have hsecond : reference? (before ++ ['$'] ++ '$' :: (body ++ rest))
      (before ++ ['$']).length = none := by
    rw [reference?, escaped_length]
    simp
  have hbehind : occurrence? (body ++ rest) 0 = none := by
    obtain ⟨c, body, rfl⟩ := List.exists_cons_of_ne_nil hbody.ne_nil
    exact occurrence?_eq_none (by simpa using hbody.ne_dollar c (by simp))
  have hfree := h.free.cons hfirst
  have hdollar := pieceAt_char hfree hsecond fun _ => hbehind
  obtain ⟨hpieces, hfree⟩ := piecesBehind_plain hbody.ne_dollar (hfree.cons hsecond)
  have hbetween := Between.of_body hbody hfree
  simp only [List.append_assoc, List.cons_append, List.nil_append] at hdollar hpieces hbetween
  refine ⟨?_, hbetween⟩
  rw [piecesBehind_cons, hnothing, piecesBehind_cons]
  simp only [List.append_assoc, List.singleton_append, List.nil_append, hdollar, hpieces]

/-- From a place between tokens on, a text is cut into what its positions contribute. -/
theorem cuts_eq_piecesBehind {before cs : List Char} (h : Between before cs) :
    cuts cs = piecesBehind before cs := by
  -- Each case of the cutting goes from one place between tokens to the next.
  fun_induction cuts cs generalizing before with
  | case1 => rfl
  | case2 text r rest htoken ih =>
    obtain ⟨body, rfl, hbody, hend⟩ := token?_eq_some_iff.1 htoken
    obtain ⟨hpieces, hnext⟩ := h.escape hbody hend
    rw [hpieces, ← ih hnext, List.length_append, Nat.add_sub_cancel, List.take_left']
    rfl
  | case3 rest htoken ih =>
    obtain ⟨hpieces, hnext⟩ := h.dollar (occurrence?_of_dollars rest)
      (occurrence?_dollar_eq_none_iff.2 htoken)
    rw [hpieces, ← ih hnext]
  | case4 text _ r rest htoken ih =>
    obtain ⟨body, rfl, hbody, hend⟩ := token?_eq_some_iff.1 htoken
    obtain ⟨hpieces, hnext⟩ := h.reference hbody hend
    rw [hpieces, ← ih hnext]
  | case5 rest hsingle htoken ih =>
    have hhead : rest[0]? ≠ some '$' := fun hdollar => by
      cases rest with
      | nil => cases hdollar
      | cons c rest => exact hsingle rest (by rw [Option.some.inj hdollar])
    obtain ⟨hpieces, hnext⟩ := h.dollar (occurrence?_dollar_eq_none_iff.2 htoken)
      (occurrence?_eq_none hhead)
    rw [hpieces, ← ih hnext]
  | case6 c rest _ hne ih =>
    have hplain : ∀ d ∈ [c], d ≠ '$' := List.forall_mem_singleton.2 hne
    obtain ⟨hpieces, hfree⟩ := piecesBehind_plain hplain h.free
    have hnext : Between (before ++ [c]) rest := .of_ne hfree List.getLast?_concat hne
    rw [ih hnext]
    exact hpieces.symm

end Token

/-- **A text is cut into what its positions contribute.** -/
theorem cuts_eq (cs : List Char) : cuts cs = (List.range cs.length).flatMap (Token.pieceAt cs) := by
  rw [Token.cuts_eq_piecesBehind (.start cs), Token.piecesBehind]
  simp only [List.nil_append, List.length_nil, Nat.zero_add]

end ActionTree
