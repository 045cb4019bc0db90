import ActionTree.Proofs.Json.Tokens

/-!
# The extent of a JSON value

A value that is read is the same value whatever follows it, and with any fuel that covers its text.
Within brackets of a line no arrow in its text separates anything, and the brackets of the text
close each other there; an object does so even outside of all brackets. All of it is by induction on
the fuel, for values, items and members at once.

* `ValueText`, `ListText`: what holds of the text of a value, and of items or members up to the
  bracket that closes them.
* `exists_readValue`: the text that a value was read from.
* `exists_parse?_object`: the text of an object has blanks around it and nothing else.
-/

namespace ActionTree.Json

open Scan

/-- A text that is a value at a depth. -/
structure ValueText (depth : Nat) (text : List Char) (d : Document) : Prop where
  head : ∃ c, text.head? = some c ∧ isSpace c = false ∧ c ≠ ']'
  passes : ∀ n, Passes (inside (n + 1)) text (inside (n + 1))
  reads : ∀ fuel, text.length ≤ fuel → Reads (readValue fuel depth) text d Stops
  object : text.head? = some '\x7b' →
    (∀ n, Passes (inside n) text (inside n)) ∧ text.getLast? = some '\x7d'

/-- A text that is items or members, as a reader with fuel reads them, up to a closing bracket. -/
structure ListText {α : Type} (read : Nat → List Char → Option (α × List Char)) (close : Char)
    (text : List Char) (a : α) : Prop where
  head : ∃ c, (skipSpace text).head? = some c ∧ c ≠ close
  passes : ∀ n, Passes (inside (n + 1)) text (inside n)
  reads : ∀ fuel, text.length ≤ fuel → Reads (read fuel) text a fun _ => True
  last : text.getLast? = some close

/-! ## The equations of the readers -/

section Equations

variable {fuel depth : Nat} {rest out cs : List Char}

theorem readValue_space {sp : List Char} (h : Space sp) (fuel depth : Nat) (cs : List Char) :
    readValue fuel depth (sp ++ cs) = readValue fuel depth cs := by
  cases fuel with
  | zero => rfl
  | succ fuel => simp only [readValue, skipSpace_append h]

theorem readValue_bracket :
    readValue (fuel + 1) depth ('[' :: rest) =
      match skipSpace rest with
      | ']' :: out => some (nested depth (.seq []), out)
      | _ => (readItems fuel (depth + 1) rest).map fun r => (nested depth (.seq r.1), r.2) := rfl

theorem readValue_brace :
    readValue (fuel + 1) depth ('\x7b' :: rest) =
      match skipSpace rest with
      | '\x7d' :: out => some (nested depth (.table []), out)
      | _ => (readMembers fuel (depth + 1) rest).map fun r => (tableOf depth r.1, r.2) := rfl

theorem readValue_string :
    readValue (fuel + 1) depth ('"' :: rest) =
      (readString rest).map fun r => (r.1.elim .invalid (.value <| .str ·), r.2) := rfl

theorem readValue_true :
    readValue (fuel + 1) depth ('t' :: rest) =
      (stripWord ['r', 'u', 'e'] rest).map (.value (.bool true), ·) := rfl

theorem readValue_false :
    readValue (fuel + 1) depth ('f' :: rest) =
      (stripWord ['a', 'l', 's', 'e'] rest).map (.value (.bool false), ·) := rfl

theorem readValue_null :
    readValue (fuel + 1) depth ('n' :: rest) =
      (stripWord ['u', 'l', 'l'] rest).map (.value .null, ·) := rfl

theorem readValue_nil_array (h : skipSpace rest = ']' :: out) :
    readValue (fuel + 1) depth ('[' :: rest) = some (nested depth (.seq []), out) := by
  rw [readValue_bracket, h]
  rfl

theorem readValue_array (h : ∀ out, skipSpace rest ≠ ']' :: out) :
    readValue (fuel + 1) depth ('[' :: rest) =
      (readItems fuel (depth + 1) rest).map fun r => (nested depth (.seq r.1), r.2) := by
  rw [readValue_bracket]
  split
  · exact absurd ‹_› (h _)
  · rfl

theorem readValue_nil_object (h : skipSpace rest = '\x7d' :: out) :
    readValue (fuel + 1) depth ('\x7b' :: rest) = some (nested depth (.table []), out) := by
  rw [readValue_brace, h]
  rfl

theorem readValue_object (h : ∀ out, skipSpace rest ≠ '\x7d' :: out) :
    readValue (fuel + 1) depth ('\x7b' :: rest) =
      (readMembers fuel (depth + 1) rest).map fun r => (tableOf depth r.1, r.2) := by
  rw [readValue_brace]
  split
  · exact absurd ‹_› (h _)
  · rfl

theorem isSpace_of_number {c : Char} (h : c = '-' ∨ c.isDigit = true) : isSpace c = false := by
  rw [Bool.eq_false_iff]
  intro hs
  simp only [isSpace, Bool.or_eq_true, decide_eq_true_eq] at hs
  rcases hs with ((rfl | rfl) | rfl) | rfl <;> exact absurd h (by decide)

theorem readValue_number {c : Char} (h : c = '-' ∨ c.isDigit = true) :
    readValue (fuel + 1) depth (c :: rest) =
      (readNumeral (c :: rest)).map fun r => (r.1.document, r.2) := by
  have hne : c ≠ '[' ∧ c ≠ '\x7b' ∧ c ≠ '"' ∧ c ≠ 't' ∧ c ≠ 'f' ∧ c ≠ 'n' := by
    refine ⟨?_, ?_, ?_, ?_, ?_, ?_⟩ <;>
    · rintro rfl
      exact absurd h (by decide)
  simp only [readValue, skipSpace_cons (isSpace_of_number h)]
  split <;> simp_all

/-- What follows an item or a member: more of them behind a comma, or the closing bracket. -/
def readTail {α : Type} (close : Char) (a : α)
    (readMore : List Char → Option (List α × List Char)) (rest : List Char) :
    Option (List α × List Char) :=
  match skipSpace rest with
  | ',' :: more => (readMore more).map fun r => (a :: r.1, r.2)
  | c :: out => if c = close then some ([a], out) else none
  | [] => none

theorem readTail_comma {α : Type} {close : Char} {a : α}
    {readMore : List Char → Option (List α × List Char)} {more : List Char}
    (h : skipSpace rest = ',' :: more) :
    readTail close a readMore rest = (readMore more).map fun r => (a :: r.1, r.2) := by
  simp only [readTail, h]

theorem readTail_close {α : Type} {close : Char} (hclose : close ≠ ',') {a : α}
    {readMore : List Char → Option (List α × List Char)} (h : skipSpace rest = close :: out) :
    readTail close a readMore rest = some ([a], out) := by
  unfold readTail
  split
  · rename_i hcomma
    rw [h] at hcomma
    cases hcomma
    exact absurd rfl hclose
  · rename_i hrest
    cases h.symm.trans hrest
    exact if_pos rfl
  · rename_i hnil
    cases h.symm.trans hnil

theorem readTail_other {α : Type} {close : Char} {a : α}
    {readMore : List Char → Option (List α × List Char)}
    (hcomma : ∀ more, skipSpace rest ≠ ',' :: more)
    (hclose : ∀ out, skipSpace rest ≠ close :: out) :
    readTail close a readMore rest = none := by
  unfold readTail
  split
  · exact absurd ‹_› (hcomma _)
  · rename_i c out _ hrest
    exact if_neg fun hc : c = close => hclose out (hc ▸ hrest)
  · rfl

theorem readItems_succ (fuel depth : Nat) (cs : List Char) :
    readItems (fuel + 1) depth cs =
      (readValue fuel depth cs).bind fun r => readTail ']' r.1 (readItems fuel depth) r.2 := by
  rw [readItems]
  cases readValue fuel depth cs with
  | none => rfl
  | some r =>
    simp only [Option.bind_eq_bind, Option.bind_some, Option.pure_def]
    split
    · rw [readTail_comma ‹_›]
      cases readItems fuel depth _ <;> rfl
    · rw [readTail_close (by decide) ‹_›]
    · rename_i hcomma hclose
      rw [readTail_other hcomma hclose]

/-- A member from its name on. -/
theorem readMembers_succ {key? : Option String} {rest' colon : List Char}
    (hquote : skipSpace cs = '"' :: rest) (hkey : readString rest = some (key?, rest'))
    (hcolon : skipSpace rest' = ':' :: colon) (fuel depth : Nat) :
    readMembers (fuel + 1) depth cs =
      (readValue fuel depth colon).bind fun r =>
        readTail '\x7d' (key?, r.1) (readMembers fuel depth) r.2 := by
  simp only [readMembers, hquote, hkey, Option.bind_eq_bind, Option.bind_some, hcolon]
  cases readValue fuel depth colon with
  | none => rfl
  | some r =>
    simp only [Option.bind_some, Option.pure_def]
    split
    · rw [readTail_comma ‹_›]
      cases readMembers fuel depth _ <;> rfl
    · rw [readTail_close (by decide) ‹_›]
    · rename_i hcomma hclose
      rw [readTail_other hcomma hclose]

/-- A member has a name, a colon and a value. -/
theorem exists_readMembers_succ {ms : List (Option String × Document)}
    (h : readMembers (fuel + 1) depth cs = some (ms, out)) :
    ∃ rest key? rest' colon, skipSpace cs = '"' :: rest ∧
      readString rest = some (key?, rest') ∧ skipSpace rest' = ':' :: colon := by
  rw [readMembers] at h
  split at h
  · rename_i rest hquote
    obtain ⟨⟨key?, rest'⟩, hkey, h⟩ := Option.bind_eq_some_iff.1 h
    simp only at h
    split at h
    · rename_i colon hcolon
      exact ⟨rest, key?, rest', colon, hquote, hkey, hcolon⟩
    · cases h
  · cases h

end Equations

/-! ## The texts of lists -/

theorem getLast?_append_of_some {a b : List Char} {c : Char} (h : b.getLast? = some c) :
    (a ++ b).getLast? = some c := by
  rw [List.getLast?_append, h]
  rfl

theorem getLast?_cons_of_some {a : Char} {b : List Char} {c : Char} (h : b.getLast? = some c) :
    (a :: b).getLast? = some c := by
  rw [List.getLast?_cons, h]
  rfl

theorem Space.stops {sp : List Char} (h : Space sp) {c : Char}
    (hc : c = ',' ∨ c = ']' ∨ c = '\x7d') (rest : List Char) : Stops (sp ++ c :: rest) := by
  intro d hd
  cases sp with
  | nil =>
    cases hd
    rcases hc with rfl | rfl | rfl <;> decide
  | cons b sp =>
    cases hd
    have hb := h d (by simp)
    simp only [isSpace, Bool.or_eq_true, decide_eq_true_eq] at hb
    rcases hb with ((rfl | rfl) | rfl) | rfl <;> decide

theorem passes_close {close : Char} (h : close = ']' ∨ close = '\x7d') (n : Nat) :
    Passes (inside (n + 1)) [close] (inside n) := by
  rcases h with rfl | rfl <;> exact .char rfl (.inl (by decide))

/-- A text that is the tail of items or members behind one of them. -/
structure TailText {α : Type} (read : Nat → List Char → Option (List α × List Char))
    (close : Char) (a : α) (text : List Char) (as : List α) : Prop where
  stops : ∀ more, Stops (text ++ more)
  passes : ∀ n, Passes (inside (n + 1)) text (inside n)
  reads : ∀ fuel, text.length ≤ fuel + 1 →
    Reads (readTail close a (read fuel)) text as fun _ => True
  last : text.getLast? = some close

theorem exists_readTail {α : Type} (read : Nat → List Char → Option (List α × List Char))
    {close : Char} (hclose : close = ']' ∨ close = '\x7d') {fuel : Nat} {a : α}
    {rest out : List Char} {as : List α}
    (ih : ∀ more as out, read fuel more = some (as, out) →
      ∃ text, more = text ++ out ∧ ListText read close text as)
    (h : readTail close a (read fuel) rest = some (as, out)) :
    ∃ text, rest = text ++ out ∧ TailText read close a text as := by
  have hne : close ≠ ',' := by rcases hclose with rfl | rfl <;> decide
  obtain ⟨sp, hsp, hrest⟩ := exists_skipSpace rest
  -- A tail goes on with a comma or ends with the mark, and nothing else is read as one.
  by_cases hcomma : ∃ more, skipSpace rest = ',' :: more
  · obtain ⟨more, hcomma⟩ := hcomma
    rw [readTail_comma hcomma, Option.map_eq_some_iff] at h
    obtain ⟨⟨as', out'⟩, hmore, heq⟩ := h
    simp only [Prod.mk.injEq] at heq
    obtain ⟨rfl, rfl⟩ := heq
    obtain ⟨text, rfl, htext⟩ := ih more as' out' hmore
    rw [hcomma] at hrest
    refine ⟨sp ++ ',' :: text, by rw [hrest, List.append_assoc, List.cons_append], ?_, ?_, ?_, ?_⟩
    · intro more
      rw [List.append_assoc]
      exact hsp.stops (.inl rfl) _
    · exact fun n => (hsp.passes _).append
        (.cons (step_of_plain (by decide) _) (.inl (by decide)) (htext.passes n))
    · intro k hk more _
      -- The comma pays for the call that reads what is behind it.
      have hlength : text.length ≤ k := by
        simp only [List.length_append, List.length_cons] at hk
        omega
      have hskip : skipSpace (sp ++ ',' :: text ++ more) = ',' :: (text ++ more) := by
        rw [List.append_assoc, skipSpace_append hsp]
        exact skipSpace_cons rfl _
      rw [readTail_comma hskip, htext.reads k hlength more trivial]
      rfl
    · exact getLast?_append_of_some (getLast?_cons_of_some htext.last)
  by_cases hend : ∃ more, skipSpace rest = close :: more
  · obtain ⟨more, hend⟩ := hend
    rw [readTail_close hne hend] at h
    cases h
    rw [hend] at hrest
    have hspace : isSpace close = false := by rcases hclose with rfl | rfl <;> rfl
    refine ⟨sp ++ [close], by rw [hrest, List.append_assoc, List.singleton_append], ?_, ?_, ?_, ?_⟩
    · intro more
      rw [List.append_assoc]
      exact hsp.stops (.inr hclose) _
    · exact fun n => (hsp.passes _).append (passes_close hclose n)
    · intro k _ more _
      refine readTail_close hne ?_
      rw [List.append_assoc, skipSpace_append hsp]
      exact skipSpace_cons hspace _
    · exact getLast?_append_of_some rfl
  · rw [readTail_other (fun more hm => hcomma ⟨more, hm⟩) fun more hm => hend ⟨more, hm⟩] at h
    cases h

theorem TailText.length_pos {α : Type} {read : Nat → List Char → Option (List α × List Char)}
    {close : Char} {a : α} {text : List Char} {as : List α} (h : TailText read close a text as) :
    0 < text.length := by
  cases text with
  | nil =>
    have hlast := h.last
    cases hlast
  | cons c text => simp

/-- A list that is read starts with no closing bracket. -/
theorem ListText.skipSpace_ne {α : Type} {read : Nat → List Char → Option (List α × List Char)}
    {close : Char} {text : List Char} {as : List α} (h : ListText read close text as)
    (more out : List Char) : skipSpace (text ++ more) ≠ close :: out := by
  obtain ⟨c, hhead, hne⟩ := h.head
  intro heq
  rw [skipSpace, List.dropWhile_append] at heq
  split at heq
  · rename_i hempty
    rw [skipSpace, List.isEmpty_iff.1 hempty] at hhead
    cases hhead
  · have hsome := congrArg List.head? heq
    rw [List.head?_append, ← skipSpace, hhead] at hsome
    cases hsome
    exact hne rfl

/-- Items are a value and their tail. -/
theorem ListText.items {depth : Nat} {sp text tail : List Char} {d : Document}
    {ds : List Document} (hsp : Space sp) (hvalue : ValueText depth text d)
    (htail : TailText (readItems · depth) ']' d tail ds) :
    ListText (readItems · depth) ']' (sp ++ (text ++ tail)) ds where
  head := by
    obtain ⟨c, hc, hspace, hne⟩ := hvalue.head
    cases text with
    | nil => cases hc
    | cons b text =>
      cases hc
      rw [skipSpace_append hsp, List.cons_append, skipSpace_cons hspace]
      exact ⟨c, rfl, hne⟩
  passes n := (hsp.passes _).append ((hvalue.passes n).append (htail.passes n))
  reads := by
    intro fuel hfuel more _
    have hlength := htail.length_pos
    simp only [List.length_append] at hfuel
    obtain ⟨k, rfl⟩ : ∃ k, fuel = k + 1 := ⟨fuel - 1, by omega⟩
    have htext : sp ++ (text ++ tail) ++ more = sp ++ (text ++ (tail ++ more)) := by simp
    rw [htext, readItems_succ, readValue_space hsp,
      hvalue.reads k (by omega) _ (htail.stops more), Option.bind_some]
    exact htail.reads k (by omega) more trivial
  last := getLast?_append_of_some (getLast?_append_of_some htail.last)

/-- Members are a name, a colon, a value and their tail. -/
theorem ListText.members {depth : Nat} {sp name sp' sp'' text tail : List Char}
    {key? : Option String} {d : Document} {ms : List (Option String × Document)} (hsp : Space sp)
    (hpasses : ∀ n, Passes (quoted n) name (inside n))
    (hname : Reads readString name key? fun _ => True) (hsp' : Space sp') (hsp'' : Space sp'')
    (hvalue : ValueText depth text d)
    (htail : TailText (readMembers · depth) '\x7d' (key?, d) tail ms) :
    ListText (readMembers · depth) '\x7d'
      (sp ++ '"' :: (name ++ (sp' ++ ':' :: (sp'' ++ (text ++ tail))))) ms where
  head := by
    rw [skipSpace_append hsp, skipSpace_cons rfl]
    exact ⟨'"', rfl, by decide⟩
  passes n := by
    refine (hsp.passes _).append (.cons (t := quoted (n + 1)) rfl (.inl (by decide)) ?_)
    refine (hpasses _).append ((hsp'.passes _).append ?_)
    refine .cons (step_of_plain (by decide) _) (.inl (by decide)) ?_
    exact (hsp''.passes _).append ((hvalue.passes n).append (htail.passes n))
  reads := by
    intro fuel hfuel more _
    have hlength := htail.length_pos
    simp only [List.length_append, List.length_cons] at hfuel
    obtain ⟨k, rfl⟩ : ∃ k, fuel = k + 1 := ⟨fuel - 1, by omega⟩
    have htext : sp ++ '"' :: (name ++ (sp' ++ ':' :: (sp'' ++ (text ++ tail)))) ++ more =
        sp ++ '"' :: (name ++ (sp' ++ ':' :: (sp'' ++ (text ++ (tail ++ more))))) := by simp
    have hquote : skipSpace (sp ++ '"' :: (name ++ (sp' ++ ':' ::
        (sp'' ++ (text ++ (tail ++ more)))))) =
        '"' :: (name ++ (sp' ++ ':' :: (sp'' ++ (text ++ (tail ++ more))))) := by
      rw [skipSpace_append hsp, skipSpace_cons rfl]
    have hcolon : skipSpace (sp' ++ ':' :: (sp'' ++ (text ++ (tail ++ more)))) =
        ':' :: (sp'' ++ (text ++ (tail ++ more))) := by
      rw [skipSpace_append hsp', skipSpace_cons rfl]
    rw [htext, readMembers_succ hquote (hname _ trivial) hcolon, readValue_space hsp'',
      hvalue.reads k (by omega) _ (htail.stops more), Option.bind_some]
    exact htail.reads k (by omega) more trivial
  last := getLast?_append_of_some (getLast?_cons_of_some (getLast?_append_of_some
    (getLast?_append_of_some (getLast?_cons_of_some (getLast?_append_of_some
      (getLast?_append_of_some htail.last))))))

/-! ## The texts of values -/

namespace ValueText

variable {depth : Nat} {text : List Char} {d : Document}

/-- A text in brackets. -/
theorem bracketed {c : Char} (hopen : c = '[' ∨ c = '\x7b')
    (hpasses : ∀ n, Passes (inside (n + 1)) text (inside n))
    (hreads : ∀ fuel, text.length ≤ fuel →
      Reads (fun cs => readValue (fuel + 1) depth (c :: cs)) text d Stops)
    (hlast : c = '\x7b' → text.getLast? = some '\x7d') : ValueText depth (c :: text) d where
  head := ⟨c, rfl, by rcases hopen with rfl | rfl <;> decide⟩
  passes n := by
    rcases hopen with rfl | rfl <;>
      exact .cons (t := inside (n + 2)) rfl (.inl (by decide)) (hpasses (n + 1))
  reads := by
    intro fuel hfuel
    simp only [List.length_cons] at hfuel
    obtain ⟨k, rfl⟩ : ∃ k, fuel = k + 1 := ⟨fuel - 1, by omega⟩
    exact hreads k (by omega)
  object h := by
    cases h
    refine ⟨fun n => .cons (t := inside (n + 1)) rfl (.inl (by decide)) (hpasses n), ?_⟩
    exact getLast?_cons_of_some (hlast rfl)

/-- A text that starts with a character that opens no bracket. -/
theorem unbracketed {c : Char} (hspace : isSpace c = false) (hne : c ≠ ']' ∧ c ≠ '\x7b')
    (hpasses : ∀ n, Passes (inside (n + 1)) (c :: text) (inside (n + 1)))
    (hreads : ∀ fuel, Reads (fun cs => readValue (fuel + 1) depth (c :: cs)) text d Stops) :
    ValueText depth (c :: text) d where
  head := ⟨c, rfl, hspace, hne.1⟩
  passes := hpasses
  reads := by
    intro fuel hfuel
    simp only [List.length_cons] at hfuel
    obtain ⟨k, rfl⟩ : ∃ k, fuel = k + 1 := ⟨fuel - 1, by omega⟩
    exact hreads k
  object h := by
    cases h
    exact absurd rfl hne.2

theorem nil_array {sp : List Char} (h : Space sp) :
    ValueText depth ('[' :: (sp ++ [']'])) (nested depth (.seq [])) := by
  refine bracketed (.inl rfl) (fun n => (h.passes _).append (passes_close (.inl rfl) n))
    (fun fuel _ more _ => readValue_nil_array ?_) fun hc => absurd hc (by decide)
  rw [List.append_assoc, skipSpace_append h]
  exact skipSpace_cons rfl _

theorem nil_object {sp : List Char} (h : Space sp) :
    ValueText depth ('\x7b' :: (sp ++ ['\x7d'])) (nested depth (.table [])) := by
  refine bracketed (.inr rfl) (fun n => (h.passes _).append (passes_close (.inr rfl) n))
    (fun fuel _ more _ => readValue_nil_object ?_) fun _ => getLast?_append_of_some rfl
  rw [List.append_assoc, skipSpace_append h]
  exact skipSpace_cons rfl _

theorem array {items : List Document} (h : ListText (readItems · (depth + 1)) ']' text items) :
    ValueText depth ('[' :: text) (nested depth (.seq items)) := by
  refine bracketed (.inl rfl) h.passes (fun fuel hfuel more _ => ?_) fun hc => absurd hc (by decide)
  simp only
  rw [readValue_array (h.skipSpace_ne more), h.reads fuel hfuel more trivial]
  rfl

theorem object_of_members {members : List (Option String × Document)}
    (h : ListText (readMembers · (depth + 1)) '\x7d' text members) :
    ValueText depth ('\x7b' :: text) (tableOf depth members) := by
  refine bracketed (.inr rfl) h.passes (fun fuel hfuel more _ => ?_) fun _ => h.last
  simp only
  rw [readValue_object (h.skipSpace_ne more), h.reads fuel hfuel more trivial]
  rfl

theorem string {s? : Option String} (hpasses : ∀ n, Passes (quoted n) text (inside n))
    (hreads : Reads readString text s? fun _ => True) :
    ValueText depth ('"' :: text) (s?.elim .invalid (.value <| .str ·)) := by
  refine unbracketed rfl (by decide)
    (fun n => .cons (t := quoted (n + 1)) rfl (.inl (by decide)) (hpasses _)) fun fuel more _ => ?_
  simp only
  rw [readValue_string, hreads more trivial]
  rfl

/-- A word that stands for a value. -/
theorem word {c : Char} {w : List Char} {v : Json} (hspace : isSpace c = false)
    (hletters : (c :: w).all Char.isAlpha = true)
    (h : ∀ fuel rest, readValue (fuel + 1) depth (c :: rest) =
      (stripWord w rest).map (Document.value v, ·)) :
    ValueText depth (c :: w) (.value v) := by
  have hplain : ∀ b ∈ c :: w, Plain b :=
    fun b hb => (plain_of_test rfl (List.all_eq_true.1 hletters b hb)).1
  obtain ⟨-, hbrace, -, -, hbracket⟩ := hplain c (by simp)
  refine unbracketed hspace ⟨hbracket, hbrace⟩ (fun n => .of_plain hplain n) fun fuel more _ => ?_
  simp only
  rw [h, stripWord_append]
  rfl

theorem number {l : Numeral} (hnumeric : ∀ c ∈ text, Numeric c)
    (hhead : ∃ c, text.head? = some c ∧ (c = '-' ∨ c.isDigit = true))
    (hreads : Reads readNumeral text l Stops) : ValueText depth text l.document := by
  obtain ⟨c, hc, hdigit⟩ := hhead
  cases text with
  | nil => cases hc
  | cons b text =>
    cases hc
    have hplain : ∀ b ∈ c :: text, Plain b := fun b hb => (hnumeric b hb).plain
    obtain ⟨-, hbrace, -, -, hbracket⟩ := hplain c (by simp)
    refine unbracketed (isSpace_of_number hdigit) ⟨hbracket, hbrace⟩ (fun n => .of_plain hplain n)
      fun fuel more hmore => ?_
    simp only
    rw [readValue_number hdigit]
    change (readNumeral (c :: text ++ more)).map _ = _
    rw [hreads more hmore]
    rfl

end ValueText

/-! ## All texts -/

/-- A value that is read with this fuel is read from its text. -/
def ValueExtent (fuel : Nat) : Prop :=
  ∀ depth cs d out, readValue fuel depth cs = some (d, out) →
    ∃ sp text, Space sp ∧ cs = sp ++ (text ++ out) ∧ ValueText depth text d

/-- Items that are read with this fuel are read from their text. -/
def ItemsExtent (fuel : Nat) : Prop :=
  ∀ depth cs ds out, readItems fuel depth cs = some (ds, out) →
    ∃ text, cs = text ++ out ∧ ListText (readItems · depth) ']' text ds

/-- Members that are read with this fuel are read from their text. -/
def MembersExtent (fuel : Nat) : Prop :=
  ∀ depth cs ms out, readMembers fuel depth cs = some (ms, out) →
    ∃ text, cs = text ++ out ∧ ListText (readMembers · depth) '\x7d' text ms

theorem valueExtent_succ {fuel : Nat} (hitems : ItemsExtent fuel) (hmembers : MembersExtent fuel) :
    ValueExtent (fuel + 1) := by
  intro depth cs d out h
  obtain ⟨sp, hsp, hcs⟩ := exists_skipSpace cs
  rw [readValue] at h
  -- The first character that is not blank tells what is read.
  split at h
  case h_1 rest hskip =>
    rw [hskip] at hcs
    split at h
    · rename_i out' hend
      obtain ⟨sp', hsp', hrest⟩ := exists_skipSpace rest
      cases h
      exact ⟨sp, _, hsp, by rw [hcs, hrest, hend]; simp, .nil_array hsp'⟩
    · obtain ⟨⟨items, out'⟩, hread, heq⟩ := Option.map_eq_some_iff.1 h
      cases heq
      obtain ⟨text, rfl, htext⟩ := hitems _ _ _ _ hread
      exact ⟨sp, _, hsp, by rw [hcs]; simp, .array htext⟩
  case h_2 rest hskip =>
    rw [hskip] at hcs
    split at h
    · rename_i out' hend
      obtain ⟨sp', hsp', hrest⟩ := exists_skipSpace rest
      cases h
      exact ⟨sp, _, hsp, by rw [hcs, hrest, hend]; simp, .nil_object hsp'⟩
    · obtain ⟨⟨members, out'⟩, hread, heq⟩ := Option.map_eq_some_iff.1 h
      cases heq
      obtain ⟨text, rfl, htext⟩ := hmembers _ _ _ _ hread
      exact ⟨sp, _, hsp, by rw [hcs]; simp, .object_of_members htext⟩
  case h_3 rest hskip =>
    obtain ⟨⟨s?, out'⟩, hread, heq⟩ := Option.map_eq_some_iff.1 h
    cases heq
    obtain ⟨text, rfl, hpasses, hreads⟩ := exists_readString hread
    exact ⟨sp, _, hsp, by rw [hcs, hskip]; simp, .string hpasses hreads⟩
  case h_4 rest hskip =>
    obtain ⟨out', hread, heq⟩ := Option.map_eq_some_iff.1 h
    cases heq
    exact ⟨sp, 't' :: ['r', 'u', 'e'], hsp, by rw [hcs, hskip, exists_stripWord hread]; rfl,
      .word rfl rfl fun _ _ => readValue_true⟩
  case h_5 rest hskip =>
    obtain ⟨out', hread, heq⟩ := Option.map_eq_some_iff.1 h
    cases heq
    exact ⟨sp, 'f' :: ['a', 'l', 's', 'e'], hsp, by rw [hcs, hskip, exists_stripWord hread]; rfl,
      .word rfl rfl fun _ _ => readValue_false⟩
  case h_6 rest hskip =>
    obtain ⟨out', hread, heq⟩ := Option.map_eq_some_iff.1 h
    cases heq
    exact ⟨sp, 'n' :: ['u', 'l', 'l'], hsp, by rw [hcs, hskip, exists_stripWord hread]; rfl,
      .word rfl rfl fun _ _ => readValue_null⟩
  case h_7 =>
    obtain ⟨⟨l, out'⟩, hread, heq⟩ := Option.map_eq_some_iff.1 h
    cases heq
    obtain ⟨text, htext, hnumeric, hhead, hreads⟩ := exists_readNumeral hread
    exact ⟨sp, text, hsp, by rw [hcs, htext], .number hnumeric hhead hreads⟩

theorem itemsExtent_succ {fuel : Nat} (hvalue : ValueExtent fuel) (hitems : ItemsExtent fuel) :
    ItemsExtent (fuel + 1) := by
  intro depth cs ds out h
  rw [readItems_succ, Option.bind_eq_some_iff] at h
  obtain ⟨⟨d, rest⟩, hd, htail⟩ := h
  obtain ⟨sp, text, hsp, rfl, htext⟩ := hvalue depth cs d rest hd
  obtain ⟨tail, rfl, htail⟩ := exists_readTail (readItems · depth) (.inl rfl) (hitems depth) htail
  exact ⟨sp ++ (text ++ tail), by simp, .items hsp htext htail⟩

theorem membersExtent_succ {fuel : Nat} (hvalue : ValueExtent fuel)
    (hmembers : MembersExtent fuel) : MembersExtent (fuel + 1) := by
  intro depth cs ms out h
  obtain ⟨rest, key?, rest', colon, hquote, hkey, hcolon⟩ := exists_readMembers_succ h
  rw [readMembers_succ hquote hkey hcolon, Option.bind_eq_some_iff] at h
  obtain ⟨⟨d, rest''⟩, hd, htail⟩ := h
  obtain ⟨sp, hsp, hcs⟩ := exists_skipSpace cs
  obtain ⟨name, rfl, hpasses, hname⟩ := exists_readString hkey
  obtain ⟨sp', hsp', hrest'⟩ := exists_skipSpace rest'
  obtain ⟨sp'', text, hsp'', rfl, htext⟩ := hvalue depth colon d rest'' hd
  obtain ⟨tail, rfl, htail⟩ := exists_readTail (readMembers · depth) (.inr rfl) (hmembers depth)
    htail
  refine ⟨_, ?_, .members hsp hpasses hname hsp' hsp'' htext htail⟩
  rw [hcs, hquote, hrest', hcolon]
  simp

theorem extents (fuel : Nat) : ValueExtent fuel ∧ ItemsExtent fuel ∧ MembersExtent fuel := by
  induction fuel with
  | zero =>
    refine ⟨?_, ?_, ?_⟩ <;>
    · intro depth cs a out h
      simp [readValue, readItems, readMembers] at h
  | succ fuel ih =>
    obtain ⟨hvalue, hitems, hmembers⟩ := ih
    exact ⟨valueExtent_succ hitems hmembers, itemsExtent_succ hvalue hitems,
      membersExtent_succ hvalue hmembers⟩

/-- **The extent of a value.** A value is read from a text that is the value whatever follows. -/
theorem exists_readValue {fuel depth : Nat} {cs out : List Char} {d : Document}
    (h : readValue fuel depth cs = some (d, out)) :
    ∃ sp text, Space sp ∧ cs = sp ++ (text ++ out) ∧ ValueText depth text d :=
  (extents fuel).1 depth cs d out h

/-! ## Objects -/

theorem json?_nested_seq_ne (depth : Nat) (items : List Document) (m : Fields Json) :
    (nested depth (.seq items)).json? ≠ some (.obj m) := by
  unfold nested
  split <;> simp [Document.json?]

theorem json?_document_ne (l : Numeral) (m : Fields Json) : l.document.json? ≠ some (.obj m) := by
  unfold Numeral.document
  simp only
  split
  · simp [Document.json?]
  split
  · simp [Document.json?]
  split <;> simp [Document.json?]

/-- Only a text that starts with a brace is an object. -/
theorem head?_of_object {fuel depth : Nat} {cs out : List Char} {d : Document} {m : Fields Json}
    (h : readValue fuel depth cs = some (d, out)) (hd : d.json? = some (.obj m)) :
    (skipSpace cs).head? = some '\x7b' := by
  cases fuel with
  | zero => cases h
  | succ fuel =>
  rw [readValue] at h
  -- Each of the other characters makes a value that is no object.
  split at h
  case h_1 =>
    split at h
    · cases h
      exact absurd hd (json?_nested_seq_ne _ _ _)
    · obtain ⟨r, -, heq⟩ := Option.map_eq_some_iff.1 h
      cases heq
      exact absurd hd (json?_nested_seq_ne _ _ _)
  case h_2 hskip => rw [hskip, List.head?_cons]
  case h_3 =>
    obtain ⟨⟨s?, out'⟩, -, heq⟩ := Option.map_eq_some_iff.1 h
    cases heq
    cases s? <;> simp [Document.json?] at hd
  case h_4 | h_5 | h_6 =>
    obtain ⟨out', -, heq⟩ := Option.map_eq_some_iff.1 h
    cases heq
    simp [Document.json?] at hd
  case h_7 =>
    obtain ⟨⟨l, out'⟩, -, heq⟩ := Option.map_eq_some_iff.1 h
    cases heq
    exact absurd hd (json?_document_ne l m)

theorem parse?_eq_some_iff {cs : List Char} {v : Json} :
    parse? cs = some v ↔
      ∃ d rest, readValue (cs.length + 1) 0 cs = some (d, rest) ∧ skipSpace rest = [] ∧
        d.json? = some v := by
  simp only [parse?, Document.ofJsonText?, Option.bind_eq_bind, Option.bind_eq_some_iff,
    Prod.exists, Option.ite_none_right_eq_some, List.isEmpty_iff, Option.some.injEq]
  constructor
  · rintro ⟨d, ⟨d', rest, hread, hrest, rfl⟩, hv⟩
    exact ⟨d', rest, hread, hrest, hv⟩
  · rintro ⟨d, rest, hread, hrest, hv⟩
    exact ⟨d, ⟨d, rest, hread, hrest, rfl⟩, hv⟩

/-- **The text of an object.** Around its braces there are only blanks, it is the same object
without them, and no arrow in it separates a line. -/
theorem exists_parse?_object {cs : List Char} {m : Fields Json} (h : parse? cs = some (.obj m)) :
    ∃ sp text sp', Space sp ∧ Space sp' ∧ cs = sp ++ (text ++ sp') ∧
      text.head? = some '\x7b' ∧ text.getLast? = some '\x7d' ∧
      (∀ n, Passes (inside n) text (inside n)) ∧ parse? text = some (.obj m) := by
  obtain ⟨d, rest, hread, hrest, hd⟩ := parse?_eq_some_iff.1 h
  obtain ⟨sp, text, hsp, hcs, htext⟩ := exists_readValue hread
  have hspace : Space rest := List.dropWhile_eq_nil_iff.1 hrest
  have hagain := htext.reads (text.length + 1) (Nat.le_succ _) [] (by simp [Stops])
  rw [List.append_nil] at hagain
  have hbrace : text.head? = some '\x7b' := by
    have hhead := head?_of_object hagain hd
    obtain ⟨c, hc, hne, -⟩ := htext.head
    cases text with
    | nil => cases hc
    | cons b text =>
      cases hc
      rwa [skipSpace_cons hne] at hhead
  obtain ⟨hpasses, hlast⟩ := htext.object hbrace
  exact ⟨sp, text, rest, hsp, hspace, hcs, hbrace, hlast, hpasses,
    parse?_eq_some_iff.2 ⟨d, [], hagain, rfl, hd⟩⟩

end ActionTree.Json
