import ActionTree.Text.Decimal

/-!
# Reference tokens

A token in a text refers to the output of an earlier step: `$stepN_result` to step `N` of the
session (a number below `2^64`), `$last_result` to the latest one. `token?` reads the body of a
token, the part behind the dollar sign. It must be followed by the end of the text or by a character
that cannot continue a name.

In the program: `StepRef` and `match_token` (`token?`); the loop in `compile_str` is `cuts`.

* `Cut`: a text is cut into plain characters and references (`cuts`); `$$` before a token body
  stands for the plain text `$` and that body.
-/

namespace ActionTree

/-- Which earlier step is meant. -/
inductive StepRef where
  /-- The step with this number; the first one is 1. -/
  | index (n : Nat)
  /-- The latest step. -/
  | last
  deriving DecidableEq

namespace Token

/-- The characters that continue a name: ASCII letters, digits and the underscore. -/
def continues (c : Char) : Bool := c.isAlphanum || c == '_'

/-- Does a name end here? -/
def atBoundary : List Char → Bool
  | [] => true
  | c :: _ => !continues c

/-- The rest of a text behind a word that it starts with. -/
def strip? : List Char → List Char → Option (List Char)
  | [], cs => some cs
  | w :: ws, c :: cs => if w = c then strip? ws cs else none
  | _ :: _, [] => none

/-- Numbers of steps are below this bound. -/
def bound : Nat := UInt64.size

/-- A reference and the text behind it, without a look at what follows. -/
def body? (cs : List Char) : Option (StepRef × List Char) :=
  match strip? "step".toList cs with
  | some rest =>
    match strip? "_result".toList (rest.dropWhile (·.isDigit)) with
    | some out => (Text.natural? bound (rest.takeWhile (·.isDigit))).map (.index ·, out)
    | none => none
  | none => (strip? "last_result".toList cs).map (.last, ·)

/-- The body of a token at the start of a text, and the text behind it. -/
def token? (cs : List Char) : Option (StepRef × List Char) :=
  match body? cs with
  | some (r, rest) => if atBoundary rest then some (r, rest) else none
  | none => none

theorem strip?_eq_some_iff {ws cs rest : List Char} :
    strip? ws cs = some rest ↔ cs = ws ++ rest := by
  induction ws generalizing cs with
  | nil => simp [strip?, eq_comm]
  | cons w ws ih =>
    cases cs with
    | nil => simp [strip?]
    | cons c cs =>
      by_cases h : w = c
      · simp [strip?, h, ih]
      · simp [strip?, h, Ne.symm h]

theorem body?_length {cs rest : List Char} {r : StepRef} (h : body? cs = some (r, rest)) :
    rest.length < cs.length := by
  unfold body? at h
  split at h
  · rename_i mid hmid
    split at h
    · rename_i out hout
      have hm := strip?_eq_some_iff.1 hmid
      have ho := strip?_eq_some_iff.1 hout
      simp only [Option.map_eq_some_iff, Prod.mk.injEq] at h
      obtain ⟨n, _, _, rfl⟩ := h
      have h1 : cs.length = 4 + mid.length := by rw [hm]; simp; omega
      have h2 : (mid.dropWhile (·.isDigit)).length = 7 + out.length := by rw [ho]; simp; omega
      have h3 : (mid.dropWhile (·.isDigit)).length ≤ mid.length :=
        (List.dropWhile_suffix _).length_le
      omega
    · simp at h
  · simp only [Option.map_eq_some_iff, Prod.mk.injEq] at h
    obtain ⟨out, hout, _, rfl⟩ := h
    rw [strip?_eq_some_iff.1 hout]
    simp
    omega

theorem token?_length {cs rest : List Char} {r : StepRef} (h : token? cs = some (r, rest)) :
    rest.length < cs.length := by
  unfold token? at h
  split at h
  · rename_i r' rest' hb
    split at h
    · simp only [Option.some.injEq, Prod.mk.injEq] at h
      obtain ⟨_, rfl⟩ := h
      exact body?_length hb
    · simp at h
  · simp at h

end Token

/-- A piece of a text: a plain character or a reference. -/
inductive Cut where
  | char (c : Char)
  | ref (r : StepRef)
  deriving DecidableEq

/-- A text cut into plain characters and references. -/
def cuts : List Char → List Cut
  | [] => []
  | '$' :: '$' :: rest =>
    match _h : Token.token? rest with
    | some (_, out) =>
      .char '$' :: ((rest.take (rest.length - out.length)).map .char ++ cuts out)
    | none => .char '$' :: cuts ('$' :: rest)
  | '$' :: rest =>
    match _h : Token.token? rest with
    | some (r, out) => .ref r :: cuts out
    | none => .char '$' :: cuts rest
  | c :: rest => .char c :: cuts rest
termination_by cs => cs.length
decreasing_by
  · have := Token.token?_length _h; simp; omega
  · simp
  · have := Token.token?_length _h; simp; omega
  · simp
  · simp

end ActionTree
