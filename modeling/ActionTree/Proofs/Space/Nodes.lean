import ActionTree.Space.Basic
import Mathlib.Data.List.Induction
import Mathlib.Data.List.Nodup

/-!
# What a tree holds

A tree that grew by attempts to add nodes holds the nodes that could be added, in the order of the
attempts, and nothing else. A node can be added if no node has its address and its parent is there.
So the three parts of a tree always agree, and all look-ups are determined by the list of its nodes:
`Space.ofNodes` is the tree over a list, and every attempt takes the tree over a list to the tree
over that list or over one node more.

* `Admissible`, `Admitted`: the nodes that can be added behind others, and lists of such nodes.
* `Space.table_ofNodes`, `Space.order_ofNodes`, `Space.childAddresses_ofNodes`: the three parts.
* `Space.insert_ofNodes_of_admissible`, `Space.insert_ofNodes_of_present`,
  `Space.insert_ofNodes_of_orphan`: the three ends of an attempt.
* `Space.foldl_attempt`: any attempts leave the tree over the nodes that were added.
* `Space.holds_added_nodes`: the whole account, for any attempts and the node behind them.
-/

namespace ActionTree

/-- A node that can be added behind these ones: no node has its address, and its parent is there
unless its address has one segment. -/
structure Admissible (ns : List Node) (n : Node) : Prop where
  fresh : ∀ m ∈ ns, m.address ≠ n.address
  parent : ∀ p, n.address.parent? = some p → ∃ m ∈ ns, m.address = p

/-- Nodes each of which can be added behind those before it. -/
inductive Admitted : List Node → Prop
  | nil : Admitted []
  | concat {ns : List Node} {n : Node} (hns : Admitted ns) (hn : Admissible ns n) :
      Admitted (ns ++ [n])

theorem admissible_iff {ns : List Node} {n : Node} :
    Admissible ns n ↔
      (∀ m ∈ ns, m.address ≠ n.address) ∧
        (n.address.depth = 1 ∨ ∃ m ∈ ns, n.address.parent? = some m.address) := by
  rw [Address.depth_eq_one_iff]
  constructor
  · intro h
    refine ⟨h.fresh, ?_⟩
    cases hparent : n.address.parent? with
    | none => exact .inl rfl
    | some p =>
      obtain ⟨m, hm, rfl⟩ := h.parent p hparent
      exact .inr ⟨m, hm, rfl⟩
  · rintro ⟨hfresh, hparent⟩
    refine ⟨hfresh, fun p hp => ?_⟩
    rcases hparent with htop | ⟨m, hm, hmp⟩
    · rw [htop] at hp
      cases hp
    · rw [hp] at hmp
      exact ⟨m, hm, (Option.some.inj hmp).symm⟩

namespace Admitted

variable {ns : List Node}

theorem concat_iff {n : Node} : Admitted (ns ++ [n]) ↔ Admitted ns ∧ Admissible ns n := by
  refine ⟨fun h => ?_, fun ⟨hns, hn⟩ => .concat hns hn⟩
  generalize hms : ns ++ [n] = ms at h
  cases h with
  | nil => simp at hms
  | concat hns hn =>
    obtain ⟨rfl, hlast⟩ := List.append_inj' hms rfl
    obtain rfl := List.singleton_inj.1 hlast
    exact ⟨hns, hn⟩

/-- So are the nodes of a beginning. -/
theorem of_append {more : List Node} (h : Admitted (ns ++ more)) : Admitted ns := by
  induction more using List.reverseRecOn with
  | nil => simpa using h
  | append_singleton more n ih =>
    rw [← List.append_assoc, concat_iff] at h
    exact ih h.1

/-- No address is used twice. -/
theorem nodup (h : Admitted ns) : (ns.map (·.address)).Nodup := by
  induction h with
  | nil => exact List.nodup_nil
  | @concat ns n hns hn ih =>
    rw [List.map_append, List.nodup_append]
    refine ⟨ih, List.nodup_singleton _, ?_⟩
    intro a ha b hb
    obtain ⟨m, hm, rfl⟩ := List.mem_map.1 ha
    rw [List.map_singleton, List.mem_singleton] at hb
    exact hb ▸ hn.fresh m hm

theorem eq_of_address (h : Admitted ns) {m n : Node} (hm : m ∈ ns) (hn : n ∈ ns)
    (haddress : m.address = n.address) : m = n :=
  List.inj_on_of_nodup_map h.nodup hm hn haddress

/-- A node is behind its parent. -/
theorem exists_parent (h : Admitted ns) {k : Nat} {n : Node} {p : Address} (hk : ns[k]? = some n)
    (hp : n.address.parent? = some p) : ∃ j < k, ∃ m, ns[j]? = some m ∧ m.address = p := by
  induction h generalizing k with
  | nil => simp at hk
  | @concat ns last hns hlast ih =>
    rcases Nat.lt_or_ge k ns.length with hold | hnew
    · rw [List.getElem?_append_left hold] at hk
      obtain ⟨j, hj, m, hm, hmp⟩ := ih hk
      exact ⟨j, hj, m, by rwa [List.getElem?_append_left (by omega)], hmp⟩
    · rw [List.getElem?_append_right hnew, List.getElem?_singleton] at hk
      obtain ⟨hk, hlast'⟩ := Option.ite_none_right_eq_some.1 hk
      obtain rfl := Option.some.inj hlast'
      obtain ⟨m, hm, hmp⟩ := hlast.parent p hp
      obtain ⟨j, hj, rfl⟩ := List.getElem_of_mem hm
      exact ⟨j, by omega, ns[j], by rw [List.getElem?_append_left hj, List.getElem?_eq_getElem hj],
        hmp⟩

theorem exists_parent_of_mem (h : Admitted ns) {n : Node} {p : Address} (hn : n ∈ ns)
    (hp : n.address.parent? = some p) : ∃ m ∈ ns, m.address = p := by
  obtain ⟨k, hk⟩ := List.getElem?_of_mem hn
  obtain ⟨j, -, m, hm, hmp⟩ := h.exists_parent hk hp
  exact ⟨m, List.mem_of_getElem? hm, hmp⟩

/-- The first node has an address of one segment. -/
theorem head_depth {n : Node} (h : Admitted (n :: ns)) : n.address.depth = 1 := by
  rw [Address.depth_eq_one_iff]
  cases hp : n.address.parent? with
  | none => rfl
  | some p =>
    obtain ⟨j, hj, -⟩ := h.exists_parent (k := 0) rfl hp
    exact absurd hj (Nat.not_lt_zero j)

end Admitted

namespace Space

/-! ## A tree with one more node -/

/-- A child is listed behind the others of its parent, and nowhere else. -/
theorem find?_adopt (parent child a : Address) (index : List (Address × List Address)) :
    (((adopt parent child index).find? (·.1 = a)).map (·.2)).getD [] =
      ((index.find? (·.1 = a)).map (·.2)).getD [] ++ if parent = a then [child] else [] := by
  induction index with
  | nil => by_cases hparent : parent = a <;> simp [adopt, hparent]
  | cons entry rest ih =>
    obtain ⟨p, cs⟩ := entry
    by_cases hp : p = parent
    · subst hp
      by_cases ha : p = a <;> simp [adopt, ha]
    · rw [adopt, if_neg hp]
      by_cases ha : p = a
      · have hother : parent ≠ a := fun heq => hp (ha.trans heq.symm)
        simp [ha, hother]
      · simpa [ha] using ih

theorem childAddresses_grow (s : Space) (n : Node) (a : Address) :
    (s.grow n).childAddresses a =
      s.childAddresses a ++ if n.address.parent? = some a then [n.address] else [] := by
  rw [childAddresses, grow]
  cases hparent : n.address.parent? with
  | none => simp [childAddresses]
  | some p => simp only [find?_adopt, childAddresses, Option.some.injEq]

/-! ## The tree over a list of nodes -/

/-- The tree over a list of nodes, each in its turn. -/
def ofNodes (ns : List Node) : Space := ns.foldl grow empty

@[simp] theorem ofNodes_nil : ofNodes [] = empty := rfl

theorem ofNodes_concat (ns : List Node) (n : Node) : ofNodes (ns ++ [n]) = (ofNodes ns).grow n :=
  List.foldl_concat ..

/-- The nodes of a list whose parent has this address, in order. -/
def childrenIn (ns : List Node) (a : Address) : List Node :=
  ns.filter (·.address.parent? = some a)

theorem mem_childrenIn {ns : List Node} {a : Address} {n : Node} :
    n ∈ childrenIn ns a ↔ n ∈ ns ∧ n.address.parent? = some a := by
  simp [childrenIn]

theorem childrenIn_concat (ns : List Node) (n : Node) (a : Address) :
    childrenIn (ns ++ [n]) a =
      childrenIn ns a ++ if n.address.parent? = some a then [n] else [] := by
  rw [childrenIn, List.filter_append, List.filter_singleton]
  simp [childrenIn]

section Parts

variable (ns : List Node)

theorem table_ofNodes : (ofNodes ns).table = ns.reverse := by
  induction ns using List.reverseRecOn with
  | nil => rfl
  | append_singleton ns n ih => rw [ofNodes_concat, grow, ih, List.reverse_concat]

theorem order_ofNodes : (ofNodes ns).order = ns.map (·.address) := by
  induction ns using List.reverseRecOn with
  | nil => rfl
  | append_singleton ns n ih => rw [ofNodes_concat, grow, ih, List.map_append, List.map_singleton]

theorem childAddresses_ofNodes (a : Address) :
    (ofNodes ns).childAddresses a = (childrenIn ns a).map (·.address) := by
  induction ns using List.reverseRecOn with
  | nil => rfl
  | append_singleton ns n ih =>
    rw [ofNodes_concat, childAddresses_grow, ih, childrenIn_concat, List.map_append]
    split <;> rfl

@[simp] theorem size_ofNodes : (ofNodes ns).size = ns.length := by
  rw [size, table_ofNodes, List.length_reverse]

theorem isSome_resolve?_ofNodes_iff {a : Address} :
    ((ofNodes ns).resolve? a).isSome = true ↔ ∃ m ∈ ns, m.address = a := by
  simp [resolve?, table_ofNodes]

end Parts

section OfNodes

variable {ns : List Node}

theorem resolve?_ofNodes_eq_some_iff (h : Admitted ns) {a : Address} {n : Node} :
    (ofNodes ns).resolve? a = some n ↔ n ∈ ns ∧ n.address = a := by
  rw [resolve?, table_ofNodes]
  constructor
  · intro hn
    exact ⟨List.mem_reverse.1 (List.mem_of_find?_eq_some hn), by simpa using List.find?_some hn⟩
  · rintro ⟨hn, rfl⟩
    obtain ⟨m, hm⟩ := Option.isSome_iff_exists.1
      ((isSome_resolve?_ofNodes_iff ns).2 ⟨n, hn, rfl⟩)
    rw [resolve?, table_ofNodes] at hm
    have haddress : m.address = n.address := by simpa using List.find?_some hm
    rw [hm, h.eq_of_address (List.mem_reverse.1 (List.mem_of_find?_eq_some hm)) hn haddress]

/-- Addresses of nodes of a list, looked up in the tree over it, are these nodes. -/
theorem filterMap_resolve?_ofNodes (h : Admitted ns) {ms : List Node} (hms : ms ⊆ ns) :
    (ms.map (·.address)).filterMap (ofNodes ns).resolve? = ms := by
  rw [List.filterMap_map]
  have hself : ∀ m ∈ ms, ((ofNodes ns).resolve? ∘ fun m : Node => m.address) m = some m :=
    fun m hm => (resolve?_ofNodes_eq_some_iff h).2 ⟨hms hm, rfl⟩
  rw [List.filterMap_congr hself, List.filterMap_some]

/-- No node is left out of the order. -/
theorem nodes_ofNodes (h : Admitted ns) : (ofNodes ns).nodes = ns := by
  rw [nodes, order_ofNodes, filterMap_resolve?_ofNodes h (List.Subset.refl ns)]

/-- No child is left out of the index. -/
theorem children_ofNodes (h : Admitted ns) (a : Address) :
    (ofNodes ns).children a = childrenIn ns a := by
  rw [children, childAddresses_ofNodes, filterMap_resolve?_ofNodes h]
  exact List.filter_subset_self _

/-- The first node is the root. -/
theorem root?_ofNodes (h : Admitted ns) : (ofNodes ns).root? = ns.head? := by
  rw [root?, nodes_ofNodes h]
  cases ns with
  | nil => rfl
  | cons n rest => exact List.find?_cons_of_pos (by simpa using h.head_depth)

/-! ## Attempts -/

theorem insert_ofNodes_of_present {n : Node} (hn : ∃ m ∈ ns, m.address = n.address) :
    (ofNodes ns).insert n = .error (.duplicate n.address.text) := by
  rw [insert, if_pos ((isSome_resolve?_ofNodes_iff ns).2 hn)]

theorem insert_ofNodes_of_orphan {n : Node} {p : Address}
    (hfresh : ∀ m ∈ ns, m.address ≠ n.address) (hparent : n.address.parent? = some p)
    (hp : ∀ m ∈ ns, m.address ≠ p) :
    (ofNodes ns).insert n = .error (.missingParent n.address.text p.text) := by
  have hnode : ¬ ((ofNodes ns).resolve? n.address).isSome = true := by
    simpa [isSome_resolve?_ofNodes_iff] using hfresh
  have hmissing : ¬ ((ofNodes ns).resolve? p).isSome = true := by
    simpa [isSome_resolve?_ofNodes_iff] using hp
  simp only [insert, if_neg hnode, hparent, if_neg hmissing]

/-- A node that can be added is behind the others then. -/
theorem insert_ofNodes_of_admissible {n : Node} (hn : Admissible ns n) :
    (ofNodes ns).insert n = .ok (ofNodes (ns ++ [n])) := by
  have hnode : ¬ ((ofNodes ns).resolve? n.address).isSome = true := by
    simpa [isSome_resolve?_ofNodes_iff] using hn.fresh
  rw [insert, if_neg hnode, ofNodes_concat]
  cases hparent : n.address.parent? with
  | none => rfl
  | some p =>
    have hpresent : ((ofNodes ns).resolve? p).isSome = true :=
      (isSome_resolve?_ofNodes_iff ns).2 (hn.parent p hparent)
    exact if_pos hpresent

/-- An attempt ends in one of three ways. -/
theorem attempt_cases (ns : List Node) (n : Node) :
    Admissible ns n ∨ (∃ m ∈ ns, m.address = n.address) ∨
      (∀ m ∈ ns, m.address ≠ n.address) ∧
        ∃ p, n.address.parent? = some p ∧ ∀ m ∈ ns, m.address ≠ p := by
  by_cases hpresent : ∃ m ∈ ns, m.address = n.address
  · exact .inr (.inl hpresent)
  have hfresh : ∀ m ∈ ns, m.address ≠ n.address := fun m hm heq => hpresent ⟨m, hm, heq⟩
  by_cases horphan : ∃ p, n.address.parent? = some p ∧ ∀ m ∈ ns, m.address ≠ p
  · exact .inr (.inr ⟨hfresh, horphan⟩)
  · refine .inl ⟨hfresh, fun p hp => ?_⟩
    by_contra hnone
    exact horphan ⟨p, hp, fun m hm heq => hnone ⟨m, hm, heq⟩⟩

/-- The nodes of a list that attempts add to a tree, in order. -/
def added (s : Space) : List Node → List Node
  | [] => []
  | n :: rest =>
    match s.insert n with
    | .ok t => n :: added t rest
    | .error _ => added s rest

theorem exists_insert_ofNodes_iff {n : Node} :
    (∃ t, (ofNodes ns).insert n = .ok t) ↔ Admissible ns n := by
  refine ⟨fun ⟨t, ht⟩ => ?_, fun hn => ⟨_, insert_ofNodes_of_admissible hn⟩⟩
  rcases attempt_cases ns n with hn | hpresent | ⟨hfresh, p, hparent, hp⟩
  · exact hn
  · rw [insert_ofNodes_of_present hpresent] at ht
    cases ht
  · rw [insert_ofNodes_of_orphan hfresh hparent hp] at ht
    cases ht

theorem insert_ofNodes_eq_ok_iff {n : Node} {t : Space} :
    (ofNodes ns).insert n = .ok t ↔ Admissible ns n ∧ t = ofNodes (ns ++ [n]) := by
  constructor
  · intro ht
    have hn := exists_insert_ofNodes_iff.1 ⟨t, ht⟩
    rw [insert_ofNodes_of_admissible hn] at ht
    exact ⟨hn, (Except.ok.inj ht).symm⟩
  · rintro ⟨hn, rfl⟩
    exact insert_ofNodes_of_admissible hn

/-- Attempts take the tree over a list to the tree over that list and the nodes that they add. -/
theorem foldl_attempt_ofNodes (h : Admitted ns) (attempts : List Node) :
    Admitted (ns ++ (ofNodes ns).added attempts) ∧
      attempts.foldl attempt (ofNodes ns) = ofNodes (ns ++ (ofNodes ns).added attempts) := by
  induction attempts generalizing ns with
  | nil => simpa [added] using h
  | cons n rest ih =>
    rw [List.foldl_cons, attempt, added]
    cases ht : (ofNodes ns).insert n with
    | error err => exact ih h
    | ok t =>
      obtain ⟨hn, rfl⟩ := insert_ofNodes_eq_ok_iff.1 ht
      simpa using ih (h.concat hn)

/-- Any attempts leave the tree over the nodes that they added. -/
theorem foldl_attempt (attempts : List Node) :
    Admitted (empty.added attempts) ∧
      attempts.foldl attempt empty = ofNodes (empty.added attempts) := by
  simpa using foldl_attempt_ofNodes .nil attempts

/-- **What a tree holds.** An attempt succeeds if and only if the address of its node is new and has
one segment or a parent that is there; otherwise it leaves the tree as it is. The tree has the nodes
that were added and no others, in order, and all look-ups go by these. -/
theorem holds_added_nodes (attempts : List Node) :
    let s := attempts.foldl attempt empty
    let ok := empty.added attempts
    (∀ n, (∃ t, s.insert n = .ok t) ↔
      (∀ m ∈ ok, m.address ≠ n.address) ∧
        (n.address.depth = 1 ∨ ∃ m ∈ ok, n.address.parent? = some m.address)) ∧
    (∀ n err, s.insert n = .error err →
      s.attempt n = s ∧
        ((∃ m ∈ ok, m.address = n.address) ∧ err = .duplicate n.address.text ∨
          (∀ m ∈ ok, m.address ≠ n.address) ∧ ∃ p, n.address.parent? = some p ∧
            (∀ m ∈ ok, m.address ≠ p) ∧ err = .missingParent n.address.text p.text)) ∧
    s.nodes = ok ∧ s.order = ok.map (·.address) ∧ s.size = ok.length ∧
    (ok.map (·.address)).Nodup ∧
    (∀ a n, s.resolve? a = some n ↔ n ∈ ok ∧ n.address = a) ∧
    (∀ a, s.children a = ok.filter (·.address.parent? = some a) ∧
      s.childAddresses a = (s.children a).map (·.address)) ∧
    (∀ (k : Nat) n p, ok[k]? = some n → n.address.parent? = some p →
      ∃ j < k, ∃ m, ok[j]? = some m ∧ m.address = p) ∧
    s.root? = ok.find? (·.address.depth = 1) ∧ (ok ≠ [] → ∃ n, s.root? = some n) := by
  intro s ok
  obtain ⟨hok, hs⟩ : Admitted ok ∧ s = ofNodes ok := foldl_attempt attempts
  rw [hs]
  refine ⟨fun n => ?_, fun n err herr => ?_, nodes_ofNodes hok, order_ofNodes ok,
    size_ofNodes ok, hok.nodup,
    fun a n => resolve?_ofNodes_eq_some_iff hok, fun a => ?_, fun k n p => hok.exists_parent,
    by rw [root?, nodes_ofNodes hok], fun hne => ?_⟩
  · rw [exists_insert_ofNodes_iff, admissible_iff]
  · refine ⟨by rw [attempt, herr], ?_⟩
    rcases attempt_cases ok n with hn | hpresent | ⟨hfresh, p, hparent, hp⟩
    · rw [insert_ofNodes_of_admissible hn] at herr
      cases herr
    · rw [insert_ofNodes_of_present hpresent] at herr
      exact .inl ⟨hpresent, (Except.error.inj herr).symm⟩
    · rw [insert_ofNodes_of_orphan hfresh hparent hp] at herr
      exact .inr ⟨hfresh, p, hparent, hp, (Except.error.inj herr).symm⟩
  · rw [children_ofNodes hok, childAddresses_ofNodes]
    exact ⟨rfl, rfl⟩
  · exact ⟨ok.head hne, by rw [root?_ofNodes hok, List.head?_eq_some_head hne]⟩

/-- Of these attempts, the one without a parent and the one at a used address add nothing. -/
theorem tree_without_orphan_and_duplicate :
    let menu (a : Address) : Node := .plain a "" none
    let attempts := [menu .root, menu ⟨0, [1]⟩, menu ⟨9, [9]⟩, menu ⟨0, [1]⟩, menu ⟨0, [2]⟩]
    let s := attempts.foldl attempt empty
    s.insert (menu ⟨9, [9]⟩) = .error (.missingParent "9.9" "9") ∧
      s.attempt (menu ⟨9, [9]⟩) = s ∧ s.children .root = [menu ⟨0, [1]⟩, menu ⟨0, [2]⟩] ∧
      ∃ n, s.root? = some n := by
  intro menu attempts s
  obtain ⟨-, hfailed, -, -, -, -, -, hchildren, -, -, hroot⟩ := holds_added_nodes attempts
  have horphan : s.insert (menu ⟨9, [9]⟩) = .error (.missingParent "9.9" "9") := calc
    s.insert (menu ⟨9, [9]⟩)
        = .error (.missingParent (Address.mk 9 [9]).text (Address.mk 9 []).text) := rfl
    _ = .error (.missingParent "9.9" "9") := by decide
  have hadded : empty.added attempts = [menu .root, menu ⟨0, [1]⟩, menu ⟨0, [2]⟩] := rfl
  refine ⟨horphan, (hfailed _ _ horphan).1, (hchildren .root).1.trans ?_, hroot ?_⟩
  · rw [hadded]
    rfl
  · rw [hadded]
    exact List.cons_ne_nil _ _

end OfNodes

end Space

end ActionTree
