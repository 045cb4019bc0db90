import ActionTree.Proofs.Template.Occurrences

/-!
# Passes over a text

A pass that changes a text at its dollar signs only, and never the character at its start, makes no
token and breaks none: what stands behind a dollar sign is a token body in the new text if it was
one in the old text. The equations of the cutting say what becomes of a text by what stands behind
its first dollar sign.

* `Token.Pass`, `Token.Pass.token?`: such a pass, and the tokens behind it.
* `cuts_char`, `cuts_dollar`, `cuts_reference`, `cuts_escaped`: the equations of the cutting.
* `cut_induction`: induction along the cutting of a text.
-/

namespace ActionTree

namespace Token

/-- A pass over a text that keeps its first character and all characters but dollar signs. -/
structure Pass (f : List Char → List Char) : Prop where
  head (cs : List Char) : (f cs).head? = cs.head?
  char {c : Char} (hc : c ≠ '$') (rest : List Char) : f (c :: rest) = c :: f rest

namespace Pass

variable {f : List Char → List Char}

theorem atBoundary (h : Pass f) (cs : List Char) :
    Token.atBoundary (f cs) = Token.atBoundary cs := by
  have hhead (ds : List Char) :
      Token.atBoundary ds = (ds.head?.map (!continues ·)).getD true := by
    cases ds <;> rfl
  rw [hhead, hhead, h.head]

/-- Blocks without dollar signs are kept. -/
theorem append (h : Pass f) {block : List Char} (hblock : ∀ c ∈ block, c ≠ '$')
    (rest : List Char) : f (block ++ rest) = block ++ f rest := by
  induction block with
  | nil => rfl
  | cons c block ih =>
    obtain ⟨hc, hblock⟩ := List.forall_mem_cons.1 hblock
    rw [List.cons_append, h.char hc, ih hblock, List.cons_append]

/-- A block without dollar signs at the start of the new text is one of the old text. -/
theorem exists_of_eq_append (h : Pass f) {cs block rest : List Char}
    (hblock : ∀ c ∈ block, c ≠ '$') (heq : f cs = block ++ rest) :
    ∃ out, cs = block ++ out ∧ rest = f out := by
  induction block generalizing cs with
  | nil => exact ⟨cs, rfl, heq.symm⟩
  | cons c block ih =>
    obtain ⟨hc, hblock⟩ := List.forall_mem_cons.1 hblock
    have hhead : cs.head? = some c := by rw [← h.head, heq]; rfl
    obtain ⟨tail, rfl⟩ := List.head?_eq_some_iff.1 hhead
    rw [h.char hc, List.cons_append, List.cons.injEq] at heq
    obtain ⟨out, rfl, hrest⟩ := ih hblock heq.2
    exact ⟨out, rfl, hrest⟩

/-- The token at the start of the new text is the one of the old text. -/
theorem token? (h : Pass f) (cs : List Char) :
    Token.token? (f cs) = (Token.token? cs).map fun (r, out) => (r, f out) := by
  refine Option.ext fun ⟨r, rest⟩ => ?_
  rw [token?_eq_some_iff, Option.map_eq_some_iff]
  constructor
  · rintro ⟨body, hcs, hbody, hend⟩
    obtain ⟨out, rfl, rfl⟩ := h.exists_of_eq_append hbody.ne_dollar hcs
    rw [h.atBoundary] at hend
    exact ⟨(r, out), token?_eq_some_iff.2 ⟨body, rfl, hbody, hend⟩, rfl⟩
  · rintro ⟨⟨r', out⟩, htoken, heq⟩
    obtain ⟨rfl, rfl⟩ := Prod.mk.inj heq
    obtain ⟨body, rfl, hbody, hend⟩ := token?_eq_some_iff.1 htoken
    exact ⟨body, h.append hbody.ne_dollar out, hbody, by rwa [h.atBoundary]⟩

end Pass

/-- No token body starts with a dollar sign. -/
theorem token?_dollar (cs : List Char) : token? ('$' :: cs) = none :=
  occurrence?_dollar_eq_none_iff.1 (occurrence?_of_dollars cs)

end Token

/-! ## Cutting -/

theorem cuts_char {c : Char} (hc : c ≠ '$') (rest : List Char) :
    cuts (c :: rest) = .char c :: cuts rest := by
  rw [cuts] <;> simp [hc]

/-- Two dollar signs in front of a body are one dollar sign and the text of the body. -/
theorem cuts_escaped {body rest : List Char} {r : StepRef}
    (htoken : Token.token? (body ++ rest) = some (r, rest)) :
    cuts ('$' :: '$' :: (body ++ rest)) = .char '$' :: (body.map .char ++ cuts rest) := by
  rw [cuts]
  split
  · rename_i r' out hfound
    obtain ⟨rfl, rfl⟩ := Prod.mk.inj (Option.some.inj (htoken.symm.trans hfound))
    rw [List.length_append, Nat.add_sub_cancel, List.take_left']
    rfl
  · rename_i hnone
    rw [htoken] at hnone
    cases hnone

/-- A dollar sign in front of a body is a reference. -/
theorem cuts_reference {rest out : List Char} {r : StepRef}
    (htoken : Token.token? rest = some (r, out)) : cuts ('$' :: rest) = .ref r :: cuts out := by
  rw [cuts]
  · split
    · rename_i hfound
      obtain ⟨rfl, rfl⟩ := Prod.mk.inj (Option.some.inj (htoken.symm.trans hfound))
      rfl
    · rename_i hnone
      rw [htoken] at hnone
      cases hnone
  · rintro tail rfl
    rw [Token.token?_dollar] at htoken
    cases htoken

/-- A dollar sign stands for itself if it neither starts nor escapes a token. -/
theorem cuts_dollar {rest : List Char} (hnone : Token.token? rest = none)
    (hnext : ∀ tail, rest = '$' :: tail → Token.token? tail = none) :
    cuts ('$' :: rest) = .char '$' :: cuts rest := by
  by_cases hdollar : ∃ tail, rest = '$' :: tail
  · obtain ⟨tail, rfl⟩ := hdollar
    rw [cuts]
    split
    · rename_i hfound
      rw [hnext tail rfl] at hfound
      cases hfound
    · rfl
  · rw [cuts]
    · split
      · rename_i hfound
        rw [hnone] at hfound
        cases hfound
      · rfl
    · exact fun tail htail => hdollar ⟨tail, htail⟩

/-- A text is cut at its first character: behind it, behind the token that it starts, or behind the
token that it escapes. -/
@[elab_as_elim]
theorem cut_induction {motive : List Char → Prop} (nil : motive [])
    (char : ∀ c rest, c ≠ '$' → motive rest → motive (c :: rest))
    (reference : ∀ rest r out, Token.token? rest = some (r, out) → motive out →
      motive ('$' :: rest))
    (escaped : ∀ rest r out, Token.token? rest = some (r, out) → motive out →
      motive ('$' :: '$' :: rest))
    (dollar : ∀ rest, Token.token? rest = none →
      (∀ tail, rest = '$' :: tail → Token.token? tail = none) → motive rest →
      motive ('$' :: rest)) (cs : List Char) : motive cs := by
  -- A token is cut off as a whole, so the induction is on the length of the text.
  induction hlength : cs.length using Nat.strongRecOn generalizing cs with
  | ind n ih =>
    cases cs with
    | nil => exact nil
    | cons c rest =>
      rw [List.length_cons] at hlength
      have hrest : motive rest := ih rest.length (by omega) rest rfl
      by_cases hc : c = '$'
      · subst hc
        cases htoken : Token.token? rest with
        | some found =>
          have hshorter := Token.token?_length htoken
          exact reference rest _ _ htoken (ih found.2.length (by omega) found.2 rfl)
        | none =>
          by_cases hescapes : ∃ tail found, rest = '$' :: tail ∧ Token.token? tail = some found
          · obtain ⟨tail, found, rfl, hfound⟩ := hescapes
            have hshorter := Token.token?_length hfound
            rw [List.length_cons] at hlength
            exact escaped tail _ _ hfound (ih found.2.length (by omega) found.2 rfl)
          · refine dollar rest htoken (fun tail htail => ?_) hrest
            exact Option.eq_none_iff_forall_ne_some.2 fun found hfound =>
              hescapes ⟨tail, found, htail, hfound⟩
      · exact char c rest hc hrest

end ActionTree
