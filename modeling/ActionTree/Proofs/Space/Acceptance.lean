import ActionTree.Proofs.Space.Catalog

/-!
# Catalogs that are accepted

Which catalogs make a tree can be said of their entries alone: all addresses can be read, no two
entries denote one address, and an entry for a node below another one is behind an entry for that.
A catalog that does not make a tree fails at the first entry with which this is no longer so. The
order of an accepted catalog is that of its nodes, but does not matter to look-ups.

* `Catalog.Acceptable`, `Catalog.Fits`: the catalogs that make a tree, entry by entry.
* `Catalog.Refused`: why an entry cannot be added behind others.
* `Catalog.addEntry_cases`: an entry fits or is refused.
* `Catalog.exists_build_iff`, `Catalog.build_eq_error_iff`: when a tree is made, and the error if
  none is.
* `TreeSettings.builds_acceptable_catalogs`: the whole account.
-/

namespace ActionTree

namespace CatalogEntry

variable {c : CatalogEntry} {n : Node}

/-- The address that the text of an entry is read as. -/
def Denotes (c : CatalogEntry) (a : Address) : Prop := Address.parse? c.address = some a

theorem Denotes.unique {a b : Address} (ha : c.Denotes a) (hb : c.Denotes b) : a = b :=
  Option.some.inj (ha.symm.trans hb)

/-- A node is as an entry lists it. -/
structure Lists (c : CatalogEntry) (n : Node) : Prop where
  address : c.Denotes n.address
  label : n.label = c.label
  description : n.description = c.description
  handler : n.handler = c.handler
  args : n.args = c.args

theorem node_eq_ok_iff : c.node = .ok n ↔ c.Lists n := by
  unfold node Address.parse
  constructor
  · intro h
    cases ha : Address.parse? c.address with
    | none => simp [ha, Except.map] at h
    | some a =>
      simp only [ha, Except.map, Except.ok.injEq] at h
      subst h
      exact ⟨ha, rfl, rfl, rfl, rfl⟩
  · rintro ⟨ha, hlabel, hdescription, hhandler, hargs⟩
    rw [Denotes] at ha
    rw [ha, ← hlabel, ← hdescription, ← hhandler, ← hargs]
    rfl

/-- An entry whose address cannot be read has no node. -/
theorem node_of_unreadable (h : Address.parse? c.address = none) :
    c.node = .error (.invalid c.address) := by
  simp [node, Address.parse, h, Except.map]

end CatalogEntry

namespace Catalog

open CatalogEntry

/-! ## What can be said of the entries -/

/-- An entry can stand behind others: its address can be read, none of them denotes it, and one of
them denotes the address above it, if it has two segments or more. -/
def Fits (before : List CatalogEntry) (c : CatalogEntry) : Prop :=
  ∃ a, c.Denotes a ∧ (∀ d ∈ before, ¬d.Denotes a) ∧
    (2 ≤ a.depth → ∃ d ∈ before, ∃ p, d.Denotes p ∧ a.parent? = some p)

/-- A catalog can be accepted: all addresses can be read, no two entries denote the same one, and
each entry for an address of two segments or more is behind one for its parent. -/
structure Acceptable (entries : List CatalogEntry) : Prop where
  readable : ∀ c ∈ entries, ∃ a, c.Denotes a
  distinct : entries.Pairwise fun c d => ∀ a, c.Denotes a → ¬d.Denotes a
  behind : ∀ before c after a, entries = before ++ c :: after → c.Denotes a → 2 ≤ a.depth →
    ∃ d ∈ before, ∃ p, d.Denotes p ∧ a.parent? = some p

/-- Why an entry cannot be added behind others, with the error that says so. -/
inductive Refused (before : List CatalogEntry) (c : CatalogEntry) : AddressError → Prop
  | unreadable (h : ∀ a, ¬c.Denotes a) : Refused before c (.invalid c.address)
  | taken {a : Address} (ha : c.Denotes a) (h : ∃ d ∈ before, d.Denotes a) :
      Refused before c (.duplicate a.text)
  | orphan {a p : Address} (ha : c.Denotes a) (hfresh : ∀ d ∈ before, ¬d.Denotes a)
      (hp : a.parent? = some p) (h : ∀ d ∈ before, ¬d.Denotes p) :
      Refused before c (.missingParent a.text p.text)

variable {entries before : List CatalogEntry} {c : CatalogEntry}

theorem Refused.not_fits {err : AddressError} (h : Refused before c err) : ¬Fits before c := by
  rintro ⟨a, ha, hfresh, hparent⟩
  cases h with
  | unreadable hnone => exact hnone a ha
  | taken hb hused =>
    obtain ⟨d, hd, hda⟩ := hused
    exact hfresh d hd (ha.unique hb ▸ hda)
  | orphan hb _ hp hnone =>
    obtain rfl := ha.unique hb
    -- Only addresses of more than one segment need a parent, and this one has one.
    have hdepth : 2 ≤ a.depth := by
      by_contra hshort
      have hone : a.depth = 1 := by
        have hpos : 1 ≤ a.depth := Nat.le_add_left 1 _
        omega
      rw [Address.depth_eq_one_iff.1 hone] at hp
      cases hp
    obtain ⟨d, hd, q, hq, hqa⟩ := hparent hdepth
    obtain rfl := Option.some.inj (hp.symm.trans hqa)
    exact hnone d hd hq

/-- An entry is refused for one reason only. -/
theorem Refused.unique {err err' : AddressError} (h : Refused before c err)
    (h' : Refused before c err') : err = err' := by
  cases h with
  | unreadable hnone =>
    cases h' with
    | unreadable => rfl
    | taken ha | orphan ha => exact absurd ha (hnone _)
  | taken ha hused =>
    cases h' with
    | unreadable hnone => exact absurd ha (hnone _)
    | taken hb => rw [ha.unique hb]
    | orphan hb hfresh =>
      obtain ⟨d, hd, hda⟩ := hused
      exact absurd (ha.unique hb ▸ hda) (hfresh d hd)
  | orphan ha hfresh hp =>
    cases h' with
    | unreadable hnone => exact absurd ha (hnone _)
    | taken hb hused =>
      obtain ⟨d, hd, hdb⟩ := hused
      exact absurd (ha.unique hb ▸ hdb) (hfresh d hd)
    | orphan hb _ hq =>
      obtain rfl := ha.unique hb
      obtain rfl := Option.some.inj (hp.symm.trans hq)
      rfl

namespace Acceptable

theorem nil : Acceptable [] where
  readable _ h := by cases h
  distinct := .nil
  behind before c after a h := by simp at h

/-- A catalog can be accepted if its beginning can and its last entry fits behind that. -/
theorem concat_iff : Acceptable (entries ++ [c]) ↔ Acceptable entries ∧ Fits entries c := by
  constructor
  · intro h
    obtain ⟨hold, -, hnew⟩ := List.pairwise_append.1 h.distinct
    refine ⟨⟨fun d hd => h.readable d (List.mem_append_left _ hd), hold, ?_⟩, ?_⟩
    · intro before d after a hsplit
      exact h.behind before d (after ++ [c]) a (by simp [hsplit])
    · obtain ⟨a, ha⟩ := h.readable c (by simp)
      refine ⟨a, ha, fun d hd hda => ?_, h.behind entries c [] a rfl ha⟩
      exact hnew d hd c (by simp) a hda ha
  · rintro ⟨h, a, ha, hfresh, hparent⟩
    refine ⟨fun d hd => ?_, ?_, fun before d after b hsplit hb => ?_⟩
    · rcases List.mem_append.1 hd with hd | hd
      · exact h.readable d hd
      · exact ⟨a, List.mem_singleton.1 hd ▸ ha⟩
    · refine List.pairwise_append.2 ⟨h.distinct, List.pairwise_singleton _ _, fun d hd d' hd' => ?_⟩
      obtain rfl := List.mem_singleton.1 hd'
      intro b hdb hcb
      exact hfresh d hd (ha.unique hcb ▸ hdb)
    · rcases List.eq_nil_or_concat after with rfl | ⟨after, last, rfl⟩
      · obtain ⟨rfl, hlast⟩ := List.append_inj' hsplit rfl
        obtain rfl := (List.singleton_inj.1 hlast).symm
        obtain rfl := ha.unique hb
        exact hparent
      · have hsplit' : entries ++ [c] = (before ++ d :: after) ++ [last] := by simp [hsplit]
        exact h.behind before d after b (List.append_inj' hsplit' rfl).1 hb

end Acceptable

/-! ## The tree -/

/-- An address is denoted by an entry if it is that of a node. -/
theorem exists_denotes_iff {ns : List Node}
    (h : List.Forall₂ (fun c n => c.node = .ok n) entries ns) {a : Address} :
    (∃ d ∈ entries, d.Denotes a) ↔ ∃ m ∈ ns, m.address = a := by
  induction h with
  | nil => simp
  | @cons d m rest ns hd _ ih =>
    have hm : d.Denotes a ↔ m.address = a := by
      have hdm := (node_eq_ok_iff.1 hd).address
      refine ⟨hdm.unique, ?_⟩
      rintro rfl
      exact hdm
    simp [hm, ih]

theorem build_concat (entries : List CatalogEntry) (c : CatalogEntry) :
    build (entries ++ [c]) = (build entries).bind (addEntry · c) := by
  rw [build, List.foldlM_append]
  change (build entries).bind _ = _
  congr 1
  funext s
  exact bind_pure (addEntry s c)

/-- An entry behind a catalog that made a tree fits and makes one more, or is refused. -/
theorem addEntry_cases {s : Space} (hs : build before = .ok s) (c : CatalogEntry) :
    (Fits before c ∧ ∃ t, addEntry s c = .ok t) ∨
      ∃ err, Refused before c err ∧ addEntry s c = .error err := by
  obtain ⟨ns, hns, hall, rfl⟩ := build_eq_ok_iff.1 hs
  cases ha : Address.parse? c.address with
  | none =>
    have hnone : ∀ a, ¬c.Denotes a := fun a h => by simp [Denotes, ha] at h
    refine .inr ⟨_, .unreadable hnone, ?_⟩
    rw [addEntry, node_of_unreadable ha]
    rfl
  | some a =>
    have hn : c.node = .ok ⟨a, c.label, c.description, c.handler, c.args⟩ :=
      node_eq_ok_iff.2 ⟨ha, rfl, rfl, rfl, rfl⟩
    have hadd : addEntry (.ofNodes ns) c =
        (Space.ofNodes ns).insert ⟨a, c.label, c.description, c.handler, c.args⟩ := by
      rw [addEntry, hn]
      rfl
    -- The entries in front denote the addresses of the nodes, and no others.
    have hdenoted : ∀ b, (∀ m ∈ ns, m.address ≠ b) → ∀ d ∈ before, ¬d.Denotes b := by
      intro b hb d hd hdb
      obtain ⟨m, hm, hmb⟩ := (exists_denotes_iff hns).1 ⟨d, hd, hdb⟩
      exact hb m hm hmb
    rcases Space.attempt_cases ns ⟨a, c.label, c.description, c.handler, c.args⟩ with
      hfits | hpresent | ⟨hfresh, p, hp, hmissing⟩
    · refine .inl ⟨⟨a, ha, hdenoted a hfits.fresh, fun hdepth => ?_⟩, ?_⟩
      · cases hp : a.parent? with
        | none =>
          rw [← Address.depth_eq_one_iff] at hp
          omega
        | some p =>
          obtain ⟨d, hd, hdp⟩ := (exists_denotes_iff hns).2 (hfits.parent p hp)
          exact ⟨d, hd, p, hdp, rfl⟩
      · rw [hadd, Space.insert_ofNodes_of_admissible hfits]
        exact ⟨_, rfl⟩
    · refine .inr ⟨_, .taken ha ((exists_denotes_iff hns).2 hpresent), ?_⟩
      rw [hadd, Space.insert_ofNodes_of_present hpresent]
    · refine .inr ⟨_, .orphan ha (hdenoted a hfresh) hp (hdenoted p hmissing), ?_⟩
      rw [hadd, Space.insert_ofNodes_of_orphan hfresh hp hmissing]

/-- The catalogs that make a tree. -/
theorem exists_build_iff : (∃ t, build entries = .ok t) ↔ Acceptable entries := by
  induction entries using List.reverseRecOn with
  | nil => exact iff_of_true ⟨.empty, rfl⟩ .nil
  | append_singleton entries c ih =>
    rw [build_concat, Acceptable.concat_iff, ← ih]
    cases hs : build entries with
    | error err => simp [Except.bind]
    | ok s =>
      rcases addEntry_cases hs c with ⟨hfits, t, ht⟩ | ⟨err, hrefused, herr⟩
      · simp [Except.bind, ht, hfits]
      · simp [Except.bind, herr, hrefused.not_fits]

theorem build_append_of_error {err : AddressError} (h : build entries = .error err)
    (more : List CatalogEntry) : build (entries ++ more) = .error err := by
  induction more using List.reverseRecOn with
  | nil => simpa using h
  | append_singleton more c ih =>
    rw [← List.append_assoc, build_concat, ih]
    rfl

/-- A catalog makes no tree if an entry is refused behind a beginning that makes one, and the error
is that of this entry. -/
theorem build_eq_error_iff {err : AddressError} :
    build entries = .error err ↔
      ∃ before c after, entries = before ++ c :: after ∧ Acceptable before ∧
        Refused before c err := by
  constructor
  · intro h
    induction entries using List.reverseRecOn with
    | nil => cases h
    | append_singleton entries c ih =>
      -- The error comes from the beginning, or that makes a tree and the last entry is refused.
      cases hs : build entries with
      | error err' =>
        have herr : err' = err := by
          rw [build_concat, hs] at h
          exact Except.error.inj h
        obtain ⟨before, d, after, rfl, hbefore, hd⟩ := ih (herr ▸ hs)
        exact ⟨before, d, after ++ [c], by simp, hbefore, hd⟩
      | ok s =>
        rw [build_concat, hs] at h
        rcases addEntry_cases hs c with ⟨-, t, ht⟩ | ⟨err', hrefused, herr'⟩
        · cases ht.symm.trans h
        · obtain rfl := Except.error.inj (herr'.symm.trans h)
          exact ⟨entries, c, [], rfl, exists_build_iff.1 ⟨s, hs⟩, hrefused⟩
  · rintro ⟨before, c, after, rfl, hbefore, hrefused⟩
    obtain ⟨s, hs⟩ := exists_build_iff.2 hbefore
    rw [List.append_cons]
    refine build_append_of_error ?_ after
    rw [build_concat, hs]
    rcases addEntry_cases hs c with ⟨hfits, -⟩ | ⟨err', hrefused', herr⟩
    · exact absurd hfits hrefused.not_fits
    · rw [hrefused.unique hrefused']
      exact herr

end Catalog

/-! ## Look-ups in two orders -/

/-- Nodes of the same entries in another order are the same nodes in another order. -/
theorem CatalogEntry.perm_of_nodes {entries entries' : List CatalogEntry} {ns ns' : List Node}
    (h : List.Forall₂ (fun c n => c.node = .ok n) entries ns)
    (h' : List.Forall₂ (fun c n => c.node = .ok n) entries' ns') (hperm : entries.Perm entries') :
    ns.Perm ns' := by
  have hnodes : ∀ {es : List CatalogEntry} {ms : List Node},
      List.Forall₂ (fun c n => c.node = .ok n) es ms → ms = es.filterMap (·.node.toOption) := by
    intro es ms hes
    induction hes with
    | nil => rfl
    | cons hc _ ih => simp [hc, ih, Except.toOption]
  rw [hnodes h, hnodes h']
  exact hperm.filterMap _

namespace Space

variable {ns ns' : List Node}

/-- The order of nodes does not matter to look-ups. -/
theorem resolve?_ofNodes_of_perm (h : Admitted ns) (h' : Admitted ns') (hperm : ns.Perm ns')
    (a : Address) : (ofNodes ns).resolve? a = (ofNodes ns').resolve? a := by
  refine Option.ext fun n => ?_
  rw [resolve?_ofNodes_eq_some_iff h, resolve?_ofNodes_eq_some_iff h', hperm.mem_iff]

/-- The order of nodes is that of the children, and no more. -/
theorem children_ofNodes_of_perm (h : Admitted ns) (h' : Admitted ns') (hperm : ns.Perm ns')
    (a : Address) : ((ofNodes ns).children a).Perm ((ofNodes ns').children a) := by
  rw [children_ofNodes h, children_ofNodes h']
  exact hperm.filter _

end Space

namespace TreeSettings

open Catalog

theorem catalog_of_ne_nil {t : TreeSettings} (h : t.nodes ≠ []) : t.catalog = t.nodes := by
  simp [catalog, effective, h]

/-- **The catalogs that are accepted.** A catalog makes a tree if and only if its addresses can be
read, are different, and stand behind their parents; the tree has one node for each entry, as that
lists it. Otherwise the error is that of the first entry that cannot be added. -/
theorem builds_acceptable_catalogs (t : TreeSettings) (hgiven : t.nodes ≠ []) :
    ((∃ s, t.space = .ok s) ↔ Acceptable t.nodes) ∧
    (∀ s, t.space = .ok s → List.Forall₂ CatalogEntry.Lists t.nodes s.nodes) ∧
    (∀ err, t.space = .error err ↔
      ∃ before c after, t.nodes = before ++ c :: after ∧ Acceptable before ∧
        ¬Acceptable (before ++ [c]) ∧ Refused before c err) ∧
    ∀ (t' : TreeSettings) (s s' : Space), t.nodes.Perm t'.nodes → t.space = .ok s →
      t'.space = .ok s' →
        ∀ a, s.resolve? a = s'.resolve? a ∧ (s.children a).Perm (s'.children a) := by
  have hspace : t.space = build t.nodes := by rw [space, catalog_of_ne_nil hgiven]
  refine ⟨?_, fun s hs => ?_, fun err => ?_, fun t' s s' hperm hs hs' a => ?_⟩
  · rw [hspace]
    exact exists_build_iff
  · obtain ⟨ns, hns, hall, rfl⟩ := build_eq_ok_iff.1 (hspace ▸ hs)
    rw [Space.nodes_ofNodes hall]
    exact hns.imp fun _ _ => CatalogEntry.node_eq_ok_iff.1
  · rw [hspace, build_eq_error_iff]
    constructor
    · rintro ⟨before, c, after, hsplit, hbefore, hrefused⟩
      refine ⟨before, c, after, hsplit, hbefore, fun h => ?_, hrefused⟩
      exact hrefused.not_fits (Acceptable.concat_iff.1 h).2
    · rintro ⟨before, c, after, hsplit, hbefore, -, hrefused⟩
      exact ⟨before, c, after, hsplit, hbefore, hrefused⟩
  · have hgiven' : t'.nodes ≠ [] := fun hnil => hgiven (hnil ▸ hperm).eq_nil
    rw [space, catalog_of_ne_nil hgiven'] at hs'
    obtain ⟨ns, hns, hall, rfl⟩ := build_eq_ok_iff.1 (hspace ▸ hs)
    obtain ⟨ns', hns', hall', rfl⟩ := build_eq_ok_iff.1 hs'
    have hnodes : ns.Perm ns' := CatalogEntry.perm_of_nodes hns hns' hperm
    exact ⟨Space.resolve?_ofNodes_of_perm hall hall' hnodes a,
      Space.children_ofNodes_of_perm hall hall' hnodes a⟩

/-- Two orders of a catalog have the same look-ups; with one more entry, which writes an address
with a leading zero, it is not accepted any more. -/
theorem catalog_in_two_orders :
    let entry (address : String) : CatalogEntry := ⟨address, "", none, none, []⟩
    let t : TreeSettings := ⟨"", [entry "0", entry "0.1", entry "0.2"]⟩
    let t' : TreeSettings := ⟨"", [entry "0", entry "0.2", entry "0.1"]⟩
    let bad : TreeSettings := ⟨"", [entry "0", entry "0.1", entry "0.01", entry "0.2"]⟩
    (∃ s s', t.space = .ok s ∧ t'.space = .ok s' ∧
      ∀ a, s.resolve? a = s'.resolve? a ∧ (s.children a).Perm (s'.children a)) ∧
    bad.space = .error (.duplicate "0.1") ∧ ¬Acceptable bad.nodes := by
  intro entry t t' bad
  obtain ⟨-, -, -, horders⟩ := t.builds_acceptable_catalogs (by simp [t])
  obtain ⟨haccepted, -, -, -⟩ := bad.builds_acceptable_catalogs (by simp [bad])
  have hok : ∀ {u : TreeSettings}, u.space.isOk = true → ∃ s, u.space = .ok s := by
    intro u hu
    cases hs : u.space with
    | ok s => exact ⟨s, rfl⟩
    | error err => simp [hs, Except.isOk, Except.toBool] at hu
  obtain ⟨s, hs⟩ : ∃ s, t.space = .ok s := hok (by decide +kernel)
  obtain ⟨s', hs'⟩ : ∃ s, t'.space = .ok s := hok (by decide +kernel)
  have herror : bad.space = .error (.duplicate "0.1") := by decide +kernel
  refine ⟨⟨s, s', hs, hs', horders t' s s' ?_ hs hs'⟩, herror, fun h => ?_⟩
  · exact (List.Perm.swap ..).cons _
  · obtain ⟨u, hu⟩ := haccepted.2 h
    cases herror.symm.trans hu

end TreeSettings

end ActionTree
