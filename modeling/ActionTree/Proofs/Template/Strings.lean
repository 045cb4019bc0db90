import ActionTree.Proofs.Template.Occurrences
import ActionTree.Proofs.Template.References
import Mathlib.Data.List.Chain

/-!
# Templates of strings

The template of a string keeps every piece that the string is cut into: the references in their
order, and the text between them in runs that are as long as can be. Resolving it puts the text of
an output in the place of each reference and looks at none of these texts again.

* `Template.pieces`: the pieces that a template of a string stands for.
* `Segment.Joined`: no run of text is empty or next to another one.
* `Template.compileString_eq_ref_iff`, `Template.exists_literal_iff`: the two short forms.
* `Template.resolve_compileString`: what a template of a string is resolved to.
* `Template.compileString_reads_tokens`: the template of a string, by the positions of the string.
-/

namespace ActionTree

/-- The pieces that a segment stands for. -/
def Segment.pieces : Segment → List Cut
  | .text t => t.toList.map .char
  | .ref r => [.ref r]

/-- No run of text is empty, and none is next to another one. -/
structure Segment.Joined (segments : List Segment) : Prop where
  nonempty : ∀ t, .text t ∈ segments → t ≠ ""
  chain : segments.IsChain fun a b => (∃ r, a = .ref r) ∨ ∃ r, b = .ref r

/-- What is written for a piece, given the outputs of references. -/
def Cut.written (out : StepRef → Json) : Cut → List Char
  | .char c => [c]
  | .ref r => (out r).inText.toList

/-- Plain text is written as it is. -/
theorem flatMap_written_chars (out : StepRef → Json) (cs : List Char) :
    (cs.map Cut.char).flatMap (Cut.written out) = cs := by
  rw [List.flatMap_map]
  exact List.flatMap_singleton' cs

/-- A reference is cut out where a position has one. -/
theorem mem_cuts_iff {cs : List Char} {r : StepRef} :
    .ref r ∈ cuts cs ↔ ∃ i n, Token.reference? cs i = some (r, n) := by
  rw [cuts_eq, List.mem_flatMap]
  constructor
  · rintro ⟨i, -, hi⟩
    unfold Token.pieceAt at hi
    split at hi
    · rename_i r' n hfound
      obtain rfl : r = r' := by simpa using hi
      exact ⟨i, n, hfound⟩
    · split at hi
      · cases hi
      · cases hchar : cs[i]? <;> simp [hchar] at hi
  · rintro ⟨i, n, hfound⟩
    have hlt : i < cs.length := by
      by_contra hge
      have hnone : cs[i]? = none := List.getElem?_eq_none (Nat.le_of_not_lt hge)
      rw [Token.reference?_eq_none (by simp [hnone])] at hfound
      cases hfound
    refine ⟨i, List.mem_range.2 hlt, ?_⟩
    rw [Token.pieceAt, hfound]
    exact List.mem_singleton_self _

theorem filterMap_ref?_pieceAt (cs : List Char) (i : Nat) :
    (Token.pieceAt cs i).filterMap Cut.ref? = ((Token.reference? cs i).map (·.1)).toList := by
  unfold Token.pieceAt
  split
  · rename_i hfound
    rw [hfound]
    rfl
  · rename_i hnone
    rw [hnone]
    split
    · rfl
    · cases cs[i]? <;> rfl

/-- The references are those of the positions, in their order. -/
theorem filterMap_ref?_cuts (cs : List Char) :
    (cuts cs).filterMap Cut.ref? =
      (List.range cs.length).filterMap fun i => (Token.reference? cs i).map (·.1) := by
  rw [cuts_eq, List.filterMap_flatMap, List.filterMap_eq_flatMap_toList]
  simp only [filterMap_ref?_pieceAt]

theorem cuts_eq_nil_iff {cs : List Char} : cuts cs = [] ↔ cs = [] := by
  refine ⟨fun h => ?_, fun h => by rw [h, cuts]⟩
  unfold cuts at h
  split at h
  · rfl
  · split at h <;> cases h
  · split at h <;> cases h
  · cases h

/-- A text that is one reference. -/
theorem cuts_eq_ref_iff {cs : List Char} {r : StepRef} :
    cuts cs = [.ref r] ↔ ∃ body, cs = '$' :: body ∧ Token.Body body r := by
  constructor
  · intro h
    -- Only a token with nothing behind it is cut into one reference.
    unfold cuts at h
    split at h
    · cases h
    · split at h <;> cases h
    · split at h
      · rename_i r' rest htoken
        obtain ⟨hr, hrest⟩ := List.cons.inj h
        cases hr
        obtain ⟨body, rfl, hbody, -⟩ := Token.token?_eq_some_iff.1 htoken
        exact ⟨body, by rw [cuts_eq_nil_iff.1 hrest, List.append_nil], hbody⟩
      · cases h
    · cases h
  · rintro ⟨body, rfl, hbody⟩
    have hstart : Token.Between [] ('$' :: (body ++ [])) := .start _
    have hpieces := (hstart.reference hbody rfl).1
    rw [List.append_nil] at hpieces
    rw [Token.cuts_eq_piecesBehind (.start _), hpieces]
    rfl

namespace Template

/-! ## Runs of text -/

/-- The pieces that a template of a string stands for. -/
def pieces : Template → List Cut
  | .literal (.str t) => t.toList.map .char
  | .ref r => [.ref r]
  | .interpolated segments => segments.flatMap Segment.pieces
  | _ => []

theorem flatMap_pieces_pushChar (c : Char) (rest : List (List Char ⊕ StepRef)) :
    ((pushChar c rest).map segment).flatMap Segment.pieces =
      .char c :: (rest.map segment).flatMap Segment.pieces := by
  unfold pushChar
  split <;> simp [segment, Segment.pieces]

/-- Joining pieces loses none. -/
theorem flatMap_pieces_runs (cs : List Cut) :
    ((runs cs).map segment).flatMap Segment.pieces = cs := by
  induction cs with
  | nil => rfl
  | cons cut rest ih =>
    cases cut with
    | ref r => rw [runs, List.map_cons, List.flatMap_cons, ih]; rfl
    | char c => rw [runs, flatMap_pieces_pushChar, ih]

theorem joined_nil : Segment.Joined [] := ⟨nofun, .nil⟩

/-- A reference may stand in front of any runs. -/
theorem joined_ref {segments : List Segment} (h : Segment.Joined segments) (r : StepRef) :
    Segment.Joined (.ref r :: segments) := by
  refine ⟨fun t ht => h.nonempty t (by simpa using ht), ?_⟩
  cases segments with
  | nil => exact .singleton _
  | cons s rest => exact .cons_cons (.inl ⟨r, rfl⟩) h.chain

/-- A character joins the text that follows. -/
theorem joined_pushChar {rest : List (List Char ⊕ StepRef)}
    (h : Segment.Joined (rest.map segment)) (c : Char) :
    Segment.Joined ((pushChar c rest).map segment) := by
  have htext (cs : List Char) : String.ofList (c :: cs) ≠ "" := by simp
  -- The character joins the text in front, or is a text of its own in front of a reference.
  fun_cases pushChar c rest with
  | case1 cs rest =>
    obtain ⟨hhead, htail⟩ := List.isChain_cons.1 h.chain
    refine ⟨fun t ht => ?_, List.isChain_cons.2 ⟨fun s hs => .inr ?_, htail⟩⟩
    · rcases List.mem_cons.1 ht with ht | ht
      · cases ht
        exact htext cs
      · exact h.nonempty t (List.mem_cons_of_mem _ ht)
    · exact (hhead s hs).resolve_left nofun
  | case2 rest hne =>
    refine ⟨fun t ht => ?_, List.isChain_cons.2 ⟨fun s hs => .inr ?_, h.chain⟩⟩
    · rcases List.mem_cons.1 ht with ht | ht
      · cases ht
        exact htext []
      · exact h.nonempty t ht
    · cases rest with
      | nil => cases hs
      | cons first rest =>
        cases first with
        | inl cs => exact absurd rfl (hne cs rest)
        | inr r => exact ⟨r, (Option.some.inj hs).symm⟩

theorem joined_runs (cs : List Cut) : Segment.Joined ((runs cs).map segment) := by
  induction cs with
  | nil => exact joined_nil
  | cons cut rest ih =>
    cases cut with
    | ref r => exact joined_ref ih r
    | char c => exact joined_pushChar ih c

/-! ## Templates -/

/-- Joined segments make a text, a reference or, with a reference among others, an interpolation. -/
theorem ofSegments_cases {segments : List Segment} (h : Segment.Joined segments) :
    (∃ t, ofSegments segments = .literal (.str t)) ∨
      (∃ r, segments = [.ref r] ∧ ofSegments segments = .ref r) ∨
        ofSegments segments = .interpolated segments ∧ ∃ r, .ref r ∈ segments := by
  fun_cases ofSegments segments with
  | case1 => exact .inl ⟨"", rfl⟩
  | case2 t => exact .inl ⟨t, rfl⟩
  | case3 r => exact .inr (.inl ⟨r, rfl, rfl⟩)
  | case4 segments hnil htext hsingle =>
    refine .inr (.inr ⟨rfl, ?_⟩)
    match segments with
    | [] => exact absurd rfl hnil
    | [.text t] => exact absurd rfl (htext t)
    | [.ref r] => exact absurd rfl (hsingle r)
    | a :: b :: rest =>
      rcases (List.isChain_cons_cons.1 h.chain).1 with ⟨r, rfl⟩ | ⟨r, rfl⟩
      · exact ⟨r, by simp⟩
      · exact ⟨r, by simp⟩

theorem pieces_ofSegments (segments : List Segment) :
    (ofSegments segments).pieces = segments.flatMap Segment.pieces := by
  fun_cases ofSegments segments with
  | case4 => rfl
  | _ => simp [pieces, Segment.pieces]

/-- The template of a string keeps the pieces of the string. -/
theorem pieces_compileString (s : String) : (compileString s).pieces = cuts s.toList := by
  rw [compileString, pieces_ofSegments, flatMap_pieces_runs]

theorem compileString_cases (s : String) :
    (∃ t, compileString s = .literal (.str t)) ∨ (∃ r, compileString s = .ref r) ∨
      ∃ segments, compileString s = .interpolated segments ∧ Segment.Joined segments ∧
        ∃ r, .ref r ∈ segments := by
  have hjoined := joined_runs (cuts s.toList)
  rcases ofSegments_cases hjoined with ht | ⟨r, -, hr⟩ | ⟨hsegments, hr⟩
  · exact .inl ht
  · exact .inr (.inl ⟨r, hr⟩)
  · exact .inr (.inr ⟨_, hsegments, hjoined, hr⟩)

/-- A string without references is a literal. -/
theorem exists_literal_iff (s : String) :
    (∃ t, compileString s = .literal (.str t)) ↔ ∀ r, .ref r ∉ cuts s.toList := by
  rw [← pieces_compileString]
  constructor
  · rintro ⟨t, ht⟩ r hr
    rw [ht] at hr
    simp [pieces] at hr
  · intro hnone
    rcases compileString_cases s with ht | ⟨r, hr⟩ | ⟨segments, hsegments, -, r, hr⟩
    · exact ht
    · exact absurd (by rw [hr]; exact List.mem_singleton_self _) (hnone r)
    · refine absurd ?_ (hnone r)
      rw [hsegments]
      exact List.mem_flatMap.2 ⟨_, hr, List.mem_singleton_self _⟩

/-- A string that is cut into characters only is a literal of these characters. -/
theorem compileString_eq_literal_iff {s t : String} :
    compileString s = .literal (.str t) ↔ cuts s.toList = t.toList.map .char := by
  rw [← pieces_compileString]
  constructor
  · intro h
    rw [h]
    rfl
  · intro h
    have hnone : ∀ r, .ref r ∉ cuts s.toList := fun r hr => by
      rw [← pieces_compileString, h] at hr
      simp at hr
    obtain ⟨u, hu⟩ := (exists_literal_iff s).2 hnone
    have hinjective : Function.Injective Cut.char := fun _ _ => Cut.char.inj
    rw [hu] at h ⊢
    rw [String.toList_inj.1 (hinjective.list_map h)]

/-- A string that is one reference stands for the output itself. -/
theorem compileString_eq_ref_iff {s : String} {r : StepRef} :
    compileString s = .ref r ↔ cuts s.toList = [.ref r] := by
  constructor
  · intro h
    rw [← pieces_compileString, h]
    rfl
  · intro h
    rw [compileString, h]
    rfl

/-! ## Outputs in their places -/

theorem interpolate_eq {log : List Record} {out : StepRef → Json} {segments : List Segment}
    (h : ∀ r, .ref r ∈ segments → lookup r log = .ok (out r)) :
    interpolate log segments =
      .ok ((segments.flatMap Segment.pieces).flatMap (Cut.written out)) := by
  induction segments with
  | nil => rfl
  | cons s rest ih =>
    have hrest := ih fun r hr => h r (List.mem_cons_of_mem _ hr)
    cases s with
    | text t =>
      rw [interpolate, hrest, List.flatMap_cons, List.flatMap_append, Segment.pieces,
        flatMap_written_chars]
      rfl
    | ref r =>
      rw [interpolate, h r (by simp), hrest, List.flatMap_cons, List.flatMap_append]
      simp [Segment.pieces, Cut.written, bind, Except.bind, pure, Except.pure]

/-- A string that is more than a reference is resolved to the text of its pieces. -/
theorem resolve_compileString {log : List Record} {out : StepRef → Json} {s : String}
    (h : ∀ r, .ref r ∈ cuts s.toList → lookup r log = .ok (out r))
    (hlonger : ∀ r, compileString s ≠ .ref r) :
    resolve log (compileString s) =
      .ok (.str (String.ofList ((cuts s.toList).flatMap (Cut.written out)))) := by
  rw [← pieces_compileString] at h ⊢
  rcases compileString_cases s with ⟨t, ht⟩ | ⟨r, hr⟩ | ⟨segments, hsegments, -⟩
  · rw [ht, resolve, pieces, flatMap_written_chars, String.ofList_toList]
  · exact absurd hr (hlonger r)
  · rw [hsegments] at h ⊢
    rw [resolve, interpolate_eq fun r hr => h r
      (List.mem_flatMap.2 ⟨_, hr, List.mem_singleton_self _⟩)]
    rfl

/-- **The template of a string.** It has the references of the string in their order, and between
them all other characters, without the dollar signs that escape tokens. An output is put in the
place of its reference as it is, whatever it looks like. -/
theorem compileString_reads_tokens (s : String) :
    (∀ i r n, Token.occurrence? s.toList i = some (r, n) ↔
      ∃ body rest, s.toList.drop i = '$' :: (body ++ rest) ∧ body.length = n ∧
        Token.Body body r ∧ Token.atBoundary rest = true) ∧
    let cs := s.toList
    let t := compileString s
    t.pieces = (List.range cs.length).flatMap (Token.pieceAt cs) ∧
    t.pieces.filterMap Cut.ref? =
      (List.range cs.length).filterMap (fun i => (Token.reference? cs i).map (·.1)) ∧
    ((∃ text, t = .literal (.str text)) ↔ ∀ i, Token.reference? cs i = none) ∧
    (∀ r, t = .ref r ↔ ∃ body, cs = '$' :: body ∧ Token.Body body r) ∧
    ((∃ i, Token.reference? cs i ≠ none) → (∀ r, t ≠ .ref r) →
      ∃ segments, t = .interpolated segments ∧ Segment.Joined segments) ∧
    ∀ log out, (∀ r ∈ t.pieces.filterMap Cut.ref?, lookup r log = .ok (out r)) →
      (∀ r, t = .ref r → resolve log t = .ok (out r)) ∧
      ((∀ r, t ≠ .ref r) → resolve log t = .ok (.str (String.ofList
        ((List.range cs.length).flatMap fun i =>
          (Token.pieceAt cs i).flatMap (Cut.written out))))) := by
  refine ⟨fun i r n => Token.occurrence?_eq_some_iff, ?_⟩
  intro cs t
  have hpieces : t.pieces = cuts cs := pieces_compileString s
  have hliteral : (∃ text, t = .literal (.str text)) ↔ ∀ i, Token.reference? cs i = none := by
    rw [exists_literal_iff]
    simp only [mem_cuts_iff, not_exists, Option.eq_none_iff_forall_ne_some, Prod.forall]
    exact ⟨fun h i r n => h r i n, fun h r i n => h i r n⟩
  refine ⟨hpieces.trans (cuts_eq cs), hpieces ▸ filterMap_ref?_cuts cs, hliteral,
    fun r => compileString_eq_ref_iff.trans cuts_eq_ref_iff, ?_, fun log out hout => ⟨?_, ?_⟩⟩
  · rintro ⟨i, hi⟩ hlonger
    rcases compileString_cases s with ht | ⟨r, hr⟩ | ⟨segments, hsegments, hjoined, -⟩
    · exact absurd (hliteral.1 ht i) hi
    · exact absurd hr (hlonger r)
    · exact ⟨segments, hsegments, hjoined⟩
  · intro r hr
    rw [hr] at hout ⊢
    exact hout r (List.mem_singleton_self r)
  · intro hlonger
    have hlookup : ∀ r, .ref r ∈ cuts cs → lookup r log = .ok (out r) := fun r hr =>
      hout r (List.mem_filterMap.2 ⟨.ref r, hpieces ▸ hr, rfl⟩)
    rw [resolve_compileString hlookup hlonger, cuts_eq, List.flatMap_assoc]

/-- Of the three tokens in this text the first is escaped and the last has a dollar sign more in
front; only the second is a reference. The output that it means looks like a token and stays. -/
theorem output_like_a_token :
    let s := "$$last_result $step1_result? $$$step1_result"
    let log : List Record := [.ofOutput 1 .root (.obj []) (.str "$last_result") .epoch]
    (compileString s).pieces.filterMap Cut.ref? = [.index 1] ∧
      resolve log (compileString s) =
        .ok (.str "$last_result $last_result? $$step1_result") := by
  intro s log
  obtain ⟨-, -, hrefs, -, href, -, hresolve⟩ := compileString_reads_tokens s
  have hone : (compileString s).pieces.filterMap Cut.ref? = [.index 1] :=
    hrefs.trans (by decide +kernel)
  have hlonger : ∀ r, compileString s ≠ .ref r := fun r h => by
    obtain ⟨body, hs, hbody⟩ := (href r).1 h
    have htail : s.toList.tail = body := congrArg List.tail hs
    have hdollar : '$' ∈ s.toList.tail := by decide +kernel
    exact hbody.ne_dollar '$' (htail ▸ hdollar) rfl
  have htext : ((List.range s.toList.length).flatMap fun i =>
      (Token.pieceAt s.toList i).flatMap (Cut.written fun _ => .str "$last_result")) =
        "$last_result $last_result? $$step1_result".toList := by decide +kernel
  have hvalue := ((hresolve log fun _ => .str "$last_result") ?_).2 hlonger
  · refine ⟨hone, hvalue.trans ?_⟩
    rw [htext, String.ofList_toList]
  · rw [hone]
    exact List.forall_mem_singleton.2 rfl

end Template

end ActionTree
