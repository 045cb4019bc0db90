import ActionTree.Proofs.Json.Extent

/-!
# The order of members

Whatever JSON text is read, the objects of its value have their members in the order of their names,
at every depth.

* `Json.Ordered`: all objects of a value are in order.
* `Json.ordered_of_parse?`: so is every value that is read.
-/

namespace ActionTree

/-- Every object in a value has its members in the order of their names. -/
inductive Json.Ordered : Json → Prop
  | null : Ordered .null
  | bool (b : Bool) : Ordered (.bool b)
  | int (i : Int) : Ordered (.int i)
  | float (x : Binary64) : Ordered (.float x)
  | str (s : String) : Ordered (.str s)
  | arr {items : List Json} (h : ∀ v ∈ items, Ordered v) : Ordered (.arr items)
  | obj {members : List (String × Json)} (hsorted : Fields.Sorted members)
      (h : ∀ m ∈ members, Ordered m.2) : Ordered (.obj members)

namespace Document

/-- The values in a document are in order. -/
inductive Ordered : Document → Prop
  | value {v : Json} (h : v.Ordered) : Ordered (.value v)
  | seq {items : List Document} (h : ∀ d ∈ items, Ordered d) : Ordered (.seq items)
  | table {members : List (String × Document)} (h : ∀ m ∈ members, Ordered m.2) :
      Ordered (.table members)
  | date : Ordered .date
  | invalid : Ordered .invalid

/-- The values of items are values of the items. -/
theorem exists_of_jsonItems? {items : List Document} {vs : List Json}
    (h : jsonItems? items = some vs) {v : Json} (hv : v ∈ vs) :
    ∃ d ∈ items, d.json? = some v := by
  induction items generalizing vs with
  | nil =>
    cases h
    cases hv
  | cons d rest ih =>
    simp only [jsonItems?, Option.bind_eq_bind, Option.bind_eq_some_iff, Option.pure_def,
      Option.some.injEq] at h
    obtain ⟨w, hw, ws, hws, rfl⟩ := h
    rcases List.mem_cons.1 hv with rfl | hv
    · exact ⟨d, List.mem_cons_self, hw⟩
    · obtain ⟨d', hd', hv'⟩ := ih hws hv
      exact ⟨d', List.mem_cons_of_mem _ hd', hv'⟩

/-- Members that are added one by one are in order. -/
theorem ordered_of_jsonMembers? {members : List (String × Document)} {found ms : Fields Json}
    (h : jsonMembers? members found = some ms)
    (hmembers : ∀ m ∈ members, ∀ v, m.2.json? = some v → v.Ordered) (hsorted : found.Sorted)
    (hfound : ∀ m ∈ found, m.2.Ordered) : ms.Sorted ∧ ∀ m ∈ ms, m.2.Ordered := by
  induction members generalizing found with
  | nil =>
    cases h
    exact ⟨hsorted, hfound⟩
  | cons member rest ih =>
    obtain ⟨k, d⟩ := member
    simp only [jsonMembers?, Option.bind_eq_bind, Option.bind_eq_some_iff] at h
    obtain ⟨v, hv, h⟩ := h
    refine ih h (fun m hm => hmembers m (List.mem_cons_of_mem _ hm)) (hsorted.put k v) ?_
    intro m hm
    rcases Fields.mem_of_mem_put hm with rfl | hm
    · exact hmembers (k, d) List.mem_cons_self v hv
    · exact hfound m hm

theorem Ordered.json? {d : Document} (h : d.Ordered) {v : Json} (hv : d.json? = some v) :
    v.Ordered := by
  induction h generalizing v with
  | value h =>
    cases hv
    exact h
  | seq _ ih =>
    obtain ⟨vs, hvs, rfl⟩ := Option.map_eq_some_iff.1 hv
    refine .arr fun w hw => ?_
    obtain ⟨d, hd, hdw⟩ := exists_of_jsonItems? hvs hw
    exact ih d hd hdw
  | table _ ih =>
    obtain ⟨ms, hms, rfl⟩ := Option.map_eq_some_iff.1 hv
    obtain ⟨hsorted, hordered⟩ :=
      ordered_of_jsonMembers? hms (fun m hm _ => ih m hm) .nil (by simp)
    exact .obj hsorted hordered
  | date | invalid => cases hv

end Document

namespace Json

variable {fuel depth : Nat} {cs out : List Char}

theorem ordered_nested {d : Document} (h : d.Ordered) (depth : Nat) :
    (nested depth d).Ordered := by
  unfold nested
  split
  · exact h
  · exact .invalid

theorem exists_of_mem_mapM {α β : Type} {f : α → Option β} {xs : List α} {ys : List β}
    (h : xs.mapM f = some ys) {y : β} (hy : y ∈ ys) : ∃ x ∈ xs, f x = some y := by
  induction xs generalizing ys with
  | nil =>
    cases h
    cases hy
  | cons x xs ih =>
    simp only [List.mapM_cons, Option.bind_eq_bind, Option.bind_eq_some_iff, Option.pure_def,
      Option.some.injEq] at h
    obtain ⟨z, hz, zs, hzs, rfl⟩ := h
    rcases List.mem_cons.1 hy with rfl | hy
    · exact ⟨x, List.mem_cons_self, hz⟩
    · obtain ⟨x', hx', hxy⟩ := ih hzs hy
      exact ⟨x', List.mem_cons_of_mem _ hx', hxy⟩

theorem ordered_tableOf {members : List (Option String × Document)}
    (h : ∀ m ∈ members, m.2.Ordered) (depth : Nat) : (tableOf depth members).Ordered := by
  unfold tableOf
  split
  · rename_i ms hms
    refine ordered_nested (.table fun m hm => ?_) depth
    obtain ⟨⟨key?, d⟩, hmember, hm⟩ := exists_of_mem_mapM hms hm
    obtain ⟨k, -, rfl⟩ := Option.map_eq_some_iff.1 hm
    exact h _ hmember
  · exact .invalid

theorem ordered_document (l : Numeral) : l.document.Ordered := by
  unfold Numeral.document
  simp only
  split
  · exact .value (.int _)
  split
  · exact .value (.int _)
  split
  · exact .value (.float _)
  · exact .invalid

/-! ## The readers -/

/-- What is read with this fuel is in order: a value, the items of an array, or the members of an
object. -/
structure ReadsOrdered (fuel : Nat) : Prop where
  value : ∀ {depth cs d out}, readValue fuel depth cs = some (d, out) → d.Ordered
  items : ∀ {depth cs ds out}, readItems fuel depth cs = some (ds, out) → ∀ d ∈ ds, d.Ordered
  members : ∀ {depth cs ms out}, readMembers fuel depth cs = some (ms, out) →
    ∀ m ∈ ms, m.2.Ordered

theorem ReadsOrdered.value_succ (h : ReadsOrdered fuel) {d : Document}
    (hread : readValue (fuel + 1) depth cs = some (d, out)) : d.Ordered := by
  rw [readValue] at hread
  split at hread
  case h_1 =>
    split at hread
    · cases hread
      exact ordered_nested (.seq (by simp)) depth
    · obtain ⟨⟨items, out'⟩, hitems, heq⟩ := Option.map_eq_some_iff.1 hread
      cases heq
      exact ordered_nested (.seq (h.items hitems)) depth
  case h_2 =>
    split at hread
    · cases hread
      exact ordered_nested (.table (by simp)) depth
    · obtain ⟨⟨members, out'⟩, hmembers, heq⟩ := Option.map_eq_some_iff.1 hread
      cases heq
      -- The members may come in any order: the table has them by their keys.
      exact ordered_tableOf (h.members hmembers) depth
  case h_3 =>
    obtain ⟨⟨s?, out'⟩, -, heq⟩ := Option.map_eq_some_iff.1 hread
    cases heq
    cases s? with
    | none => exact .invalid
    | some s => exact .value (.str s)
  case h_4 | h_5 =>
    obtain ⟨out', -, heq⟩ := Option.map_eq_some_iff.1 hread
    cases heq
    exact .value (.bool _)
  case h_6 =>
    obtain ⟨out', -, heq⟩ := Option.map_eq_some_iff.1 hread
    cases heq
    exact .value .null
  case h_7 =>
    obtain ⟨⟨l, out'⟩, -, heq⟩ := Option.map_eq_some_iff.1 hread
    cases heq
    exact ordered_document l

/-- What holds of the first of some items and of all that are read behind it holds of all. -/
theorem forall_of_readTail {α : Type} {close : Char} {P : α → Prop} {a : α}
    {readMore : List Char → Option (List α × List Char)} {rest : List Char} {as : List α}
    (hread : readTail close a readMore rest = some (as, out)) (ha : P a)
    (hmore : ∀ {cs as out}, readMore cs = some (as, out) → ∀ b ∈ as, P b) : ∀ b ∈ as, P b := by
  unfold readTail at hread
  split at hread
  · obtain ⟨⟨more, out'⟩, hrest, heq⟩ := Option.map_eq_some_iff.1 hread
    cases heq
    exact List.forall_mem_cons.2 ⟨ha, hmore hrest⟩
  · obtain ⟨-, heq⟩ := Option.ite_none_right_eq_some.1 hread
    cases heq
    simpa using ha
  · cases hread

theorem ReadsOrdered.succ (h : ReadsOrdered fuel) : ReadsOrdered (fuel + 1) where
  value := h.value_succ
  items hread := by
    rw [readItems_succ, Option.bind_eq_some_iff] at hread
    obtain ⟨⟨d, rest⟩, hvalue, htail⟩ := hread
    exact forall_of_readTail htail (h.value hvalue) h.items
  members hread := by
    obtain ⟨rest, key?, rest', colon, hquote, hkey, hcolon⟩ := exists_readMembers_succ hread
    rw [readMembers_succ hquote hkey hcolon, Option.bind_eq_some_iff] at hread
    obtain ⟨⟨d, rest''⟩, hvalue, htail⟩ := hread
    exact forall_of_readTail htail (h.value hvalue) h.members

theorem readsOrdered (fuel : Nat) : ReadsOrdered fuel := by
  induction fuel with
  | zero => exact ⟨nofun, nofun, nofun⟩
  | succ fuel ih => exact ih.succ

/-- Every value that is read from a text is in order. -/
theorem ordered_of_parse? {v : Json} (h : parse? cs = some v) : v.Ordered := by
  obtain ⟨d, rest, hread, -, hv⟩ := parse?_eq_some_iff.1 h
  exact ((readsOrdered _).value hread).json? hv

end Json

end ActionTree
