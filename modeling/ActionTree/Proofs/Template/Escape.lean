import ActionTree.Proofs.Template.Passes
import ActionTree.Proofs.Template.Substitution

/-!
# Writing a text literally

A dollar sign that a token body follows gets a second one in front of it; all else stays. A text
that is written in this way is plain: none of its tokens is a reference, and reading it takes away
the dollar signs that were added and no others. This is so for any text, also for one with several
dollar signs in a row, with tokens next to each other or with tokens that look escaped already.

* `Token.escape`: the text with the dollar signs added; `Json.escape`: all strings of a value.
* `cuts_escape`: an escaped text is cut into the characters of the text.
* `Template.escape_is_complete`: what is escaped is resolved to what was meant.
-/

namespace ActionTree

namespace Token

/-- A text with one dollar sign more in front of each dollar sign that a token body follows. -/
def escape : List Char → List Char
  | [] => []
  | c :: rest =>
    if c = '$' ∧ (token? rest).isSome then '$' :: '$' :: escape rest else c :: escape rest

theorem escape_token {rest : List Char} (h : (token? rest).isSome) :
    escape ('$' :: rest) = '$' :: '$' :: escape rest := if_pos ⟨rfl, h⟩

theorem escape_dollar {rest : List Char} (h : token? rest = none) :
    escape ('$' :: rest) = '$' :: escape rest := if_neg fun ⟨_, hsome⟩ => by simp [h] at hsome

theorem escape_char {c : Char} (hc : c ≠ '$') (rest : List Char) :
    escape (c :: rest) = c :: escape rest := if_neg fun ⟨heq, _⟩ => hc heq

/-- An escaped text starts as the text does. -/
theorem head?_escape (cs : List Char) : (escape cs).head? = cs.head? := by
  cases cs with
  | nil => rfl
  | cons c rest =>
    rw [escape]
    split
    · rename_i h
      rw [h.1]
      rfl
    · rfl

/-- Escaping makes no token and breaks none. -/
theorem pass_escape : Pass escape := ⟨head?_escape, escape_char⟩

end Token

/-! ## Cutting -/

/-- Behind the first dollar sign of an escaped text no token stands: if one stood there in the text,
another dollar sign is in front of it. -/
theorem Token.token?_of_escape_eq {cs tail : List Char} (h : escape cs = '$' :: tail) :
    token? tail = none := by
  have hhead : cs.head? = some '$' := by rw [← head?_escape, h]; rfl
  obtain ⟨rest, rfl⟩ := List.head?_eq_some_iff.1 hhead
  cases htoken : token? rest with
  | none =>
    rw [escape_dollar htoken, List.cons.injEq] at h
    rw [← h.2, pass_escape.token?, htoken, Option.map_none]
  | some found =>
    rw [escape_token (by rw [htoken]; rfl), List.cons.injEq] at h
    rw [← h.2]
    exact token?_dollar _

/-- An escaped text is cut into the characters of the text. -/
theorem cuts_escape (cs : List Char) : cuts (Token.escape cs) = cs.map .char := by
  -- The body of a token is passed as a whole, so the recursion is not on the tail.
  match cs with
  | [] => rw [Token.escape, cuts, List.map_nil]
  | c :: rest =>
    by_cases hc : c = '$'
    · subst hc
      cases htoken : Token.token? rest with
      | none =>
        have hnone : Token.token? (Token.escape rest) = none := by
          rw [Token.pass_escape.token?, htoken, Option.map_none]
        rw [Token.escape_dollar htoken,
          cuts_dollar hnone fun tail => Token.token?_of_escape_eq, cuts_escape rest, List.map_cons]
      | some found =>
        obtain ⟨r, out⟩ := found
        have hshorter := Token.token?_length htoken
        have hescaped : Token.token? (Token.escape rest) = some (r, Token.escape out) := by
          rw [Token.pass_escape.token?, htoken, Option.map_some]
        obtain ⟨body, rfl, hbody, -⟩ := Token.token?_eq_some_iff.1 htoken
        rw [Token.pass_escape.append hbody.ne_dollar] at hescaped
        rw [Token.escape_token (by rw [htoken]; rfl), Token.pass_escape.append hbody.ne_dollar,
          cuts_escaped hescaped, cuts_escape out, List.map_cons, List.map_append]
    · rw [Token.escape_char hc, cuts_char hc, cuts_escape rest, List.map_cons]
termination_by cs.length

/-! ## Values -/

/-- A string with its tokens escaped. -/
def Json.escapedString (s : String) : Json := .str (String.ofList (Token.escape s.toList))

/-- A value with the tokens of all its strings escaped. Keys stay. -/
def Json.escape (v : Json) : Json := v.mapStrings escapedString

namespace Template

/-- The template of an escaped string is the string. -/
theorem compile_escapedString (s : String) : compile (.escapedString s) = .literal (.str s) := by
  rw [Json.escapedString, compile, compileString_eq_literal_iff, String.toList_ofList, cuts_escape]

variable (log : List Record)

theorem resolve_escape (v : Json) : resolve log (compile v.escape) = .ok v := by
  have hstrings : ∀ s ∈ v.texts, resolve log (compile (.escapedString s)) = .ok (.str s) :=
    fun s _ => by rw [compile_escapedString, resolve]
  have hresolve := resolve_mapStrings v hstrings
  rwa [Json.mapStrings_str] at hresolve

/-- **Any text can be written literally.** The template of a string whose tokens are escaped is the
string: it has no references, and it is resolved to the string behind every log. So it is with a
value whose strings are all escaped in this way. -/
theorem escape_is_complete :
    (∀ s : String, compile (.escapedString s) = .literal (.str s) ∧
      (Json.escapedString s).refs = [] ∧
      ∀ log, resolve log (compile (.escapedString s)) = .ok (.str s)) ∧
    ∀ v : Json, hasRefs (compile v.escape) = false ∧
      ∀ log, resolve log (compile v.escape) = .ok v := by
  have hvalue (v : Json) : v.escape.refs = [] := exists_resolve_nil_iff.1 ⟨v, resolve_escape [] v⟩
  refine ⟨fun s => ⟨compile_escapedString s, hvalue (.str s), ?_⟩, fun v => ⟨?_, ?_⟩⟩
  · exact fun log => resolve_escape log (.str s)
  · exact hasRefs_compile_eq_false_iff.2 (hvalue v)
  · exact fun log => resolve_escape log v

/-- A token that looks escaped gets a dollar sign more, as does the token behind it; a dollar sign
in front of a word that is no token stays. -/
theorem literal_of_escaped_looking_text :
    Token.escape "$$last_result$step7_result $step7_results".toList =
        "$$$last_result$$step7_result $step7_results".toList ∧
      compile (.str "$$$last_result$$step7_result $step7_results") =
        .literal (.str "$$last_result$step7_result $step7_results") := by
  have hescape : Token.escape "$$last_result$step7_result $step7_results".toList =
      "$$$last_result$$step7_result $step7_results".toList := by decide +kernel
  have hliteral := (escape_is_complete.1 "$$last_result$step7_result $step7_results").1
  rw [Json.escapedString, hescape, String.ofList_toList] at hliteral
  exact ⟨hescape, hliteral⟩

end Template

end ActionTree
