import ActionTree.Proofs.Json.Places
import ActionTree.Proofs.Template.Strings
import ActionTree.Session.Basic
import Mathlib.Tactic.Choose

/-!
# What substitution keeps

Substitution changes strings with tokens and nothing else. A value without references has the same
value behind every log: its strings lose the dollar signs that escape tokens. A value with
references has none behind the empty log; where it has one, every place of it stays, with the same
numbers, truth values, keys and lengths.

* `Json.unescape`: a value without the dollar signs that escape tokens in its strings.
* `Template.hasRefs_compile_eq_false_iff`: whether a template refers to anything.
* `Template.filled`: a string with outputs in the places of its references; `resolve_compile`: so
  are all strings of a value.
* `Template.Fills`: what may stand at the place of a value.
* `Template.substitution_keeps_the_rest`: what is kept of a value, and of an argument object.
-/

namespace ActionTree

/-! ## Text without references -/

theorem flatMap_getElem? {α : Type} (xs : List α) :
    ((List.range xs.length).flatMap fun i => xs[i]?.toList) = xs := by
  induction xs with
  | nil => rfl
  | cons x xs ih =>
    rw [List.length_cons, List.range_succ_eq_map, List.flatMap_cons, List.flatMap_map]
    exact congrArg (x :: ·) ih

namespace Token

/-- A text without the dollar signs that escape tokens. -/
def unescape (cs : List Char) : List Char :=
  (List.range cs.length).flatMap fun i => if escapes cs i then [] else cs[i]?.toList

/-- A text in which no token occurs has no dollar sign to lose. -/
theorem unescape_eq_self {cs : List Char} (h : ∀ i, occurrence? cs i = none) :
    unescape cs = cs := by
  have hescapes (i : Nat) : escapes cs i = false := by
    rw [escapes, h, Option.isSome_none, Bool.and_false]
  simp only [unescape, hescapes, Bool.false_eq_true, ↓reduceIte]
  exact flatMap_getElem? cs

theorem pieceAt_of_no_reference {cs : List Char} (h : ∀ i, reference? cs i = none) (i : Nat) :
    pieceAt cs i = (if escapes cs i then [] else cs[i]?.toList).map .char := by
  have hreached : reached cs i = false := by
    simp only [reached, h, Option.any_none, List.any_eq_false, Bool.false_eq_true,
      not_false_eq_true, implies_true]
  rw [pieceAt, h i]
  simp only [hreached, Bool.false_or]
  split
  · rfl
  · cases cs[i]? <;> rfl

/-- A text without references is cut into the characters that do not escape a token. -/
theorem cuts_of_no_reference {cs : List Char} (h : ∀ i, reference? cs i = none) :
    cuts cs = (unescape cs).map .char := by
  rw [cuts_eq, funext (pieceAt_of_no_reference h), unescape, List.map_flatMap]

end Token

/-- A string without the dollar signs that escape tokens. -/
def Json.unescapedString (s : String) : Json := .str (String.ofList (Token.unescape s.toList))

/-- A value whose strings have lost the dollar signs that escape tokens. Keys stay. -/
def Json.unescape (v : Json) : Json := v.mapStrings unescapedString

/-! ## References of a value -/

theorem StepRef.not_usable_nil (r : StepRef) : ¬r.Usable [] := by
  rintro ⟨hpos, hle, -⟩
  exact absurd (Nat.le_trans hpos hle) (by decide)

namespace Json

mutual

/-- The references of a value are those of its strings. -/
theorem refs_eq_texts : ∀ v : Json,
    v.refs = v.texts.flatMap fun s => (cuts s.toList).filterMap Cut.ref?
  | .str s => by rw [texts, refs, List.flatMap_singleton]
  | .arr items => by rw [refs, texts, refsOfItems_eq_texts items]
  | .obj members => by rw [refs, texts, refsOfMembers_eq_texts members]
  | .null | .bool _ | .int _ | .float _ => rfl

theorem refsOfItems_eq_texts : ∀ items : List Json,
    refsOfItems items = (textsOfItems items).flatMap fun s => (cuts s.toList).filterMap Cut.ref?
  | [] => rfl
  | v :: rest => by
    rw [refsOfItems, textsOfItems, List.flatMap_append, refs_eq_texts v, refsOfItems_eq_texts rest]

theorem refsOfMembers_eq_texts : ∀ members : List (String × Json),
    refsOfMembers members =
      (textsOfMembers members).flatMap fun s => (cuts s.toList).filterMap Cut.ref?
  | [] => rfl
  | (k, v) :: rest => by
    rw [refsOfMembers, textsOfMembers, List.flatMap_append, refs_eq_texts v,
      refsOfMembers_eq_texts rest]

end

theorem mem_refs_iff {v : Json} {r : StepRef} :
    r ∈ v.refs ↔ ∃ s ∈ v.texts, .ref r ∈ cuts s.toList := by
  rw [refs_eq_texts, List.mem_flatMap]
  refine exists_congr fun s => and_congr_right fun _ => ?_
  rw [List.mem_filterMap]
  constructor
  · rintro ⟨cut, hcut, hr⟩
    cases cut with
    | char c => cases hr
    | ref r' => exact Option.some.inj hr ▸ hcut
  · exact fun hr => ⟨_, hr, rfl⟩

end Json

namespace Template

theorem hasRefs_compileString_eq_false_iff {s : String} :
    hasRefs (compileString s) = false ↔ ∀ r, .ref r ∉ cuts s.toList := by
  rw [← exists_literal_iff]
  constructor
  · intro h
    rcases compileString_cases s with ht | ⟨r, hr⟩ | ⟨segments, hsegments, -⟩
    · exact ht
    · rw [hr] at h
      cases h
    · rw [hsegments] at h
      cases h
  · rintro ⟨t, ht⟩
    rw [ht]
    rfl

mutual

/-- A template refers to something if the template of one of its strings does. -/
theorem hasRefs_compile : ∀ v : Json,
    hasRefs (compile v) = v.texts.any fun s => hasRefs (compileString s)
  | .str s => by rw [compile, Json.texts, List.any_cons, List.any_nil, Bool.or_false]
  | .arr items => by rw [compile, hasRefs, itemsHaveRefs_compileItems items, Json.texts]
  | .obj members => by rw [compile, hasRefs, membersHaveRefs_compileMembers members, Json.texts]
  | .null | .bool _ | .int _ | .float _ => rfl

theorem itemsHaveRefs_compileItems : ∀ items : List Json,
    itemsHaveRefs (compileItems items) =
      (Json.textsOfItems items).any fun s => hasRefs (compileString s)
  | [] => rfl
  | v :: rest => by
    rw [compileItems, itemsHaveRefs, hasRefs_compile v, itemsHaveRefs_compileItems rest,
      Json.textsOfItems, List.any_append]

theorem membersHaveRefs_compileMembers : ∀ members : List (String × Json),
    membersHaveRefs (compileMembers members) =
      (Json.textsOfMembers members).any fun s => hasRefs (compileString s)
  | [] => rfl
  | (k, v) :: rest => by
    rw [compileMembers, membersHaveRefs, hasRefs_compile v, membersHaveRefs_compileMembers rest,
      Json.textsOfMembers, List.any_append]

end

theorem hasRefs_compile_eq_false_iff {v : Json} : hasRefs (compile v) = false ↔ v.refs = [] := by
  rw [hasRefs_compile, List.any_eq_false, List.eq_nil_iff_forall_not_mem]
  simp only [Json.mem_refs_iff, not_exists, not_and, Bool.not_eq_true,
    hasRefs_compileString_eq_false_iff]
  exact ⟨fun h r s hs => h s hs r, fun h s hs r => h r s hs⟩

/-! ## Outputs in the places of references -/

/-- A string with outputs in the places of its references. If it is one reference and nothing else,
it is the output itself. -/
def filled (out : StepRef → Json) (s : String) : Json :=
  match cuts s.toList with
  | [.ref r] => out r
  | pieces => .str (String.ofList (pieces.flatMap (Cut.written out)))

variable {out : StepRef → Json}

theorem filled_of_ref {s : String} {r : StepRef} (h : cuts s.toList = [.ref r]) :
    filled out s = out r := by
  rw [filled, h]

theorem filled_of_longer {s : String} (h : ∀ r, cuts s.toList ≠ [.ref r]) :
    filled out s = .str (String.ofList ((cuts s.toList).flatMap (Cut.written out))) := by
  unfold filled
  split
  · rename_i r hr
    exact absurd hr (h r)
  · rfl

/-- A string without references is filled by what it says. -/
theorem filled_of_no_reference {s : String} (h : ∀ i, Token.reference? s.toList i = none) :
    filled out s = .unescapedString s := by
  have hcuts := Token.cuts_of_no_reference h
  have hlonger : ∀ r, cuts s.toList ≠ [.ref r] := fun r hr => by
    obtain ⟨i, n, hfound⟩ := mem_cuts_iff.1 (hr ▸ List.mem_singleton_self _)
    rw [h i] at hfound
    cases hfound
  rw [filled_of_longer hlonger, hcuts, flatMap_written_chars, Json.unescapedString]

variable {log : List Record}

theorem resolve_compileString_eq_filled {s : String}
    (h : ∀ r, .ref r ∈ cuts s.toList → lookup r log = .ok (out r)) :
    resolve log (compileString s) = .ok (filled out s) := by
  by_cases hone : ∃ r, compileString s = .ref r
  · obtain ⟨r, hr⟩ := hone
    have hcuts := compileString_eq_ref_iff.1 hr
    rw [hr, resolve, filled_of_ref hcuts]
    exact h r (hcuts ▸ List.mem_singleton_self _)
  · have hlonger : ∀ r, compileString s ≠ .ref r := fun r hr => hone ⟨r, hr⟩
    rw [resolve_compileString h hlonger,
      filled_of_longer fun r hr => hlonger r (compileString_eq_ref_iff.2 hr)]

variable {f g : String → Json}

mutual

/-- A value is resolved string by string. -/
theorem resolve_mapStrings : ∀ v : Json,
    (∀ s ∈ v.texts, resolve log (compile (f s)) = .ok (g s)) →
      resolve log (compile (v.mapStrings f)) = .ok (v.mapStrings g)
  | .str s, h => h s (List.mem_singleton_self s)
  | .arr items, h => by
    rw [Json.mapStrings, compile, resolve, resolveItems_mapItems items h]
    rfl
  | .obj members, h => by
    rw [Json.mapStrings, compile, resolve, resolveMembers_mapMembers members h]
    rfl
  | .null, _ | .bool _, _ | .int _, _ | .float _, _ => rfl

theorem resolveItems_mapItems : ∀ items : List Json,
    (∀ s ∈ Json.textsOfItems items, resolve log (compile (f s)) = .ok (g s)) →
      resolveItems log (compileItems (Json.mapItems f items)) = .ok (Json.mapItems g items)
  | [], _ => rfl
  | v :: rest, h => by
    rw [Json.mapItems, compileItems, resolveItems,
      resolve_mapStrings v fun s hs => h s (List.mem_append_left _ hs),
      resolveItems_mapItems rest fun s hs => h s (List.mem_append_right _ hs)]
    rfl

theorem resolveMembers_mapMembers : ∀ members : List (String × Json),
    (∀ s ∈ Json.textsOfMembers members, resolve log (compile (f s)) = .ok (g s)) →
      resolveMembers log (compileMembers (Json.mapMembers f members)) =
        .ok (Json.mapMembers g members)
  | [], _ => rfl
  | (k, v) :: rest, h => by
    rw [Json.mapMembers, compileMembers, resolveMembers,
      resolve_mapStrings v fun s hs => h s (List.mem_append_left _ hs),
      resolveMembers_mapMembers rest fun s hs => h s (List.mem_append_right _ hs)]
    rfl

end

mutual

/-- What a value is resolved to, or its error, depends on what its strings are resolved to. -/
theorem resolve_mapStrings_congr
    (h : ∀ s, resolve log (compile (f s)) = resolve log (compile (g s))) : ∀ v : Json,
      resolve log (compile (v.mapStrings f)) = resolve log (compile (v.mapStrings g))
  | .str s => h s
  | .arr items => by
    rw [Json.mapStrings, Json.mapStrings, compile, compile, resolve, resolve,
      resolveItems_mapItems_congr h items]
  | .obj members => by
    rw [Json.mapStrings, Json.mapStrings, compile, compile, resolve, resolve,
      resolveMembers_mapMembers_congr h members]
  | .null | .bool _ | .int _ | .float _ => rfl

theorem resolveItems_mapItems_congr
    (h : ∀ s, resolve log (compile (f s)) = resolve log (compile (g s))) : ∀ items : List Json,
      resolveItems log (compileItems (Json.mapItems f items)) =
        resolveItems log (compileItems (Json.mapItems g items))
  | [] => rfl
  | v :: rest => by
    rw [Json.mapItems, Json.mapItems, compileItems, compileItems, resolveItems, resolveItems,
      resolve_mapStrings_congr h v, resolveItems_mapItems_congr h rest]

theorem resolveMembers_mapMembers_congr
    (h : ∀ s, resolve log (compile (f s)) = resolve log (compile (g s))) :
    ∀ members : List (String × Json),
      resolveMembers log (compileMembers (Json.mapMembers f members)) =
        resolveMembers log (compileMembers (Json.mapMembers g members))
  | [] => rfl
  | (k, v) :: rest => by
    rw [Json.mapMembers, Json.mapMembers, compileMembers, compileMembers, resolveMembers,
      resolveMembers, resolve_mapStrings_congr h v, resolveMembers_mapMembers_congr h rest]

end

/-- A value whose references can be used is resolved to the value with its strings filled. -/
theorem resolve_compile {v : Json} (h : ∀ r ∈ v.refs, lookup r log = .ok (out r)) :
    resolve log (compile v) = .ok (v.mapStrings (filled out)) := by
  have hstrings : ∀ s ∈ v.texts, resolve log (compile (.str s)) = .ok (filled out s) :=
    fun s hs => resolve_compileString_eq_filled fun r hr => h r (Json.mem_refs_iff.2 ⟨s, hs, hr⟩)
  have hresolve := resolve_mapStrings v hstrings
  rwa [Json.mapStrings_str] at hresolve

/-- A value without references has one value behind every log. -/
theorem resolve_compile_of_constant {v : Json} (h : v.refs = []) :
    resolve log (compile v) = .ok v.unescape := by
  have hunusable : ∀ r ∈ v.refs, lookup r log = .ok .null := fun r hr => by
    rw [h] at hr
    cases hr
  have hstrings : ∀ s ∈ v.texts, filled (fun _ => .null) s = .unescapedString s := fun s hs => by
    refine filled_of_no_reference fun i => Option.eq_none_iff_forall_ne_some.2 fun ⟨r, n⟩ hr => ?_
    have hmem : r ∈ v.refs := Json.mem_refs_iff.2 ⟨s, hs, mem_cuts_iff.2 ⟨i, n, hr⟩⟩
    rw [h] at hmem
    cases hmem
  rw [resolve_compile hunusable, Json.mapStrings_congr v hstrings, Json.unescape]

/-- A value with references cannot be resolved behind the empty log. -/
theorem exists_resolve_nil_iff {v : Json} :
    (∃ w, resolve [] (compile v) = .ok w) ↔ v.refs = [] := by
  rw [exists_resolve_iff, List.eq_nil_iff_forall_not_mem]
  exact forall₂_congr fun r _ => iff_false_intro r.not_usable_nil

theorem exists_outputs {v w : Json} (h : resolve log (compile v) = .ok w) :
    ∃ out : StepRef → Json, (∀ r ∈ v.refs, lookup r log = .ok (out r)) ∧
      w = v.mapStrings (filled out) := by
  have husable : ∀ r ∈ v.refs, ∃ o, lookup r log = .ok o := fun r hr => by
    rw [← offence?_eq_none_iff, offence?_lookup_eq_none_iff]
    exact (exists_resolve_iff log).1 ⟨w, h⟩ r hr
  choose! out hout using husable
  exact ⟨out, hout, Except.ok.inj (h.symm.trans (resolve_compile hout))⟩

/-! ## Places -/

/-- What a string becomes, given the outputs of references. -/
structure FillsString (out : StepRef → Json) (s : String) (x : Json) : Prop where
  /-- A reference and nothing else becomes the output. -/
  output : ∀ body r, s.toList = '$' :: body → Token.Body body r → x = out r
  /-- Any other string stays a string, with the texts of outputs in it. -/
  text : (∀ body r, s.toList = '$' :: body → ¬Token.Body body r) →
    x = .str (String.ofList ((List.range s.toList.length).flatMap fun i =>
      (Token.pieceAt s.toList i).flatMap (Cut.written out)))
  /-- A string without references loses the dollar signs that escape tokens. -/
  constant : (∀ i, Token.reference? s.toList i = none) → x = .unescapedString s
  /-- A string without tokens stays as it is. -/
  plain : (∀ i, Token.occurrence? s.toList i = none) → x = .str s

/-- What may stand at the place of a value when its strings are filled: numbers, truth values and
null stay, an array keeps its length and an object its keys. -/
def Fills (out : StepRef → Json) : Json → Json → Prop
  | .str s, x => FillsString out s x
  | .arr items, x => ∃ items', x = .arr items' ∧ items'.length = items.length
  | .obj members, x => ∃ members', x = .obj members' ∧ Fields.keys members' = Fields.keys members
  | .null, x => x = .null
  | .bool b, x => x = .bool b
  | .int i, x => x = .int i
  | .float a, x => x = .float a

theorem fillsString_filled (s : String) : FillsString out s (filled out s) where
  output body r hs hbody := filled_of_ref (cuts_eq_ref_iff.2 ⟨body, hs, hbody⟩)
  text hnone := by
    have hlonger : ∀ r, cuts s.toList ≠ [.ref r] := fun r hr => by
      obtain ⟨body, hs, hbody⟩ := cuts_eq_ref_iff.1 hr
      exact hnone body r hs hbody
    rw [filled_of_longer hlonger, cuts_eq, List.flatMap_assoc]
  constant := filled_of_no_reference
  plain hnone := by
    have hreference : ∀ i, Token.reference? s.toList i = none := fun i => by
      rw [Token.reference?, hnone i, ite_self]
    rw [filled_of_no_reference hreference, Json.unescapedString, Token.unescape_eq_self hnone,
      String.ofList_toList]

theorem fills_mapStrings (u : Json) : Fills out u (u.mapStrings (filled out)) := by
  cases u with
  | str s => exact fillsString_filled s
  | arr items => exact ⟨_, rfl, by rw [Json.mapItems_eq, List.length_map]⟩
  | obj members => exact ⟨_, rfl, Json.keys_mapMembers members⟩
  | _ => rfl

/-! ## Argument objects -/

/-- An argument object is resolved to an object. -/
theorem resolve_ofArgs (args : Fields Json) :
    resolve log (ofArgs args) = (resolveArgs log args).map .obj := by
  simp only [resolveArgs, ofArgs, resolve]
  cases resolveMembers log (compileMembers args) <;> rfl

theorem keys_of_resolveArgs {args found : Fields Json} (h : resolveArgs log args = .ok found) :
    found.keys = args.keys := by
  have hresolve : resolve log (compile (.obj args)) = .ok (.obj found) := by
    rw [compile, ← ofArgs, resolve_ofArgs, h]
    rfl
  obtain ⟨out, -, hfound⟩ := exists_outputs hresolve
  rw [Json.mapStrings, Json.obj.injEq] at hfound
  rw [hfound, Json.keys_mapMembers]

/-- **What substitution keeps.** A template without references is resolved behind every log, to the
value itself, without the dollar signs that escape tokens. Whenever a template is resolved, the same
stands at each place of its value, but for strings and what becomes of them. -/
theorem substitution_keeps_the_rest :
    (∀ v : Json,
      (hasRefs (compile v) = false ↔ ∃ w, resolve [] (compile v) = .ok w) ∧
      (hasRefs (compile v) = false ↔ ∀ log, ∃ w, resolve log (compile v) = .ok w) ∧
      (hasRefs (compile v) = false → ∀ log, resolve log (compile v) = .ok v.unescape) ∧
      ∀ log w, resolve log (compile v) = .ok w →
        ∃ out : StepRef → Json, (∀ r ∈ v.refs, lookup r log = .ok (out r)) ∧
          ∀ place u, v.at? place = some u → ∃ x, w.at? place = some x ∧ Fills out u x) ∧
    ∀ (target : Target) (args : Fields Json) (state : State),
      (Step.mk target args).template.resolve state.log = (resolveArgs state.log args).map .obj ∧
      ∀ found, resolveArgs state.log args = .ok found → found.keys = args.keys := by
  refine ⟨fun v => ?_, fun target args state => ⟨resolve_ofArgs args, fun _ => keys_of_resolveArgs⟩⟩
  rw [hasRefs_compile_eq_false_iff]
  refine ⟨exists_resolve_nil_iff.symm, ⟨?_, ?_⟩, fun h log => resolve_compile_of_constant h, ?_⟩
  · exact fun h log => ⟨_, resolve_compile_of_constant h⟩
  · exact fun h => exists_resolve_nil_iff.1 (h [])
  · intro log w hw
    obtain ⟨out, hout, rfl⟩ := exists_outputs hw
    exact ⟨out, hout, fun place u hu => ⟨_, Json.at?_mapStrings hu, fills_mapStrings u⟩⟩

/-- An output that is an array takes the place of a reference; in the text beside it stands its
text, and the number and the escaped token are kept. Behind the empty log there is nothing to put
in. -/
theorem arguments_with_list_and_text :
    let v : Json := .obj [("data", .arr [.str "$step1_result", .int 7]),
      ("text", .str "$last_result, not $$last_result")]
    let log : List Record := [.ofOutput 1 .root (.obj []) (.arr [.null]) .epoch]
    (∃ w, resolve log (compile v) = .ok w ∧
      w.at? [.member "data", .item 0] = some (.arr [.null]) ∧
      w.at? [.member "data", .item 1] = some (.int 7) ∧
      w.at? [.member "text"] = some (.str "[null], not $last_result")) ∧
    ¬∃ w, resolve [] (compile v) = .ok w := by
  intro v log
  obtain ⟨hkeeps, -⟩ := substitution_keeps_the_rest
  obtain ⟨hnil, -, -, hplaces⟩ := hkeeps v
  have hrefs : v.refs = [.index 1, .last] := by
    rw [Json.refs_eq_texts]
    simp only [filterMap_ref?_cuts]
    decide +kernel
  have hlookup : ∀ r ∈ v.refs, lookup r log = .ok (.arr [.null]) := by
    rw [hrefs]
    simp only [List.forall_mem_cons]
    exact ⟨rfl, rfl, nofun⟩
  obtain ⟨out, hout, hkept⟩ := hplaces log _ (resolve_compile hlookup)
  have hindex : out (.index 1) = .arr [.null] :=
    Except.ok.inj ((hout _ (by simp [hrefs])).symm.trans (hlookup _ (by simp [hrefs])))
  have hlast : out .last = .arr [.null] :=
    Except.ok.inj ((hout _ (by simp [hrefs])).symm.trans (hlookup _ (by simp [hrefs])))
  refine ⟨⟨_, resolve_compile hlookup, ?_, ?_, ?_⟩, ?_⟩
  · obtain ⟨x, hx, hfill⟩ := hkept [.member "data", .item 0] _ rfl
    have hbody : Token.Body "step1_result".toList (.index 1) :=
      .step (List.cons_ne_nil '1' []) (List.forall_mem_singleton.2 rfl) (by decide +kernel)
    have hs : "$step1_result".toList = '$' :: "step1_result".toList := rfl
    rw [hx, hfill.output _ _ hs hbody, hindex]
  · obtain ⟨x, hx, rfl⟩ := hkept [.member "data", .item 1] _ rfl
    exact hx
  · obtain ⟨x, hx, hfill⟩ := hkept [.member "text"] _ rfl
    have hlonger : ∀ body r, "$last_result, not $$last_result".toList = '$' :: body →
        ¬Token.Body body r := fun body r hs hbody =>
      hbody.ne_dollar '$' (by rw [← (List.cons.inj hs).2]; decide) rfl
    have hpieces : (List.range "$last_result, not $$last_result".toList.length).flatMap
        (Token.pieceAt "$last_result, not $$last_result".toList) =
          .ref .last :: ", not $last_result".toList.map .char := by decide +kernel
    rw [hx, hfill.text hlonger, ← List.flatMap_assoc, hpieces, List.flatMap_cons,
      flatMap_written_chars, Cut.written, hlast]
    rfl
  · rw [← hnil, hasRefs_compile_eq_false_iff, hrefs]
    exact List.cons_ne_nil _ _

end Template

end ActionTree
