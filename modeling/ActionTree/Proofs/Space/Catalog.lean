import ActionTree.Settings.Basic
import ActionTree.Proofs.Space.Nodes
import Mathlib.Data.List.Forall2

/-!
# The tree of a catalog

A catalog makes a tree if and only if its addresses can be read and each of its nodes can be added
behind those before it. Its tree then has these nodes, in the order of the catalog. A catalog in use
is never empty, so its first node is a root.

* `Catalog.build_eq_ok_iff`: the catalogs that make a tree, and their trees.
* `TreeSettings.space_eq_ok_iff`, `TreeSettings.exists_root`: the same for the catalog in use.
-/

namespace ActionTree

namespace Catalog

theorem addEntry_eq_ok_iff {ns : List Node} {c : CatalogEntry} {t : Space} :
    addEntry (.ofNodes ns) c = .ok t ↔
      ∃ n, c.node = .ok n ∧ Admissible ns n ∧ t = .ofNodes (ns ++ [n]) := by
  unfold addEntry
  cases hc : c.node with
  | error err => simp [bind, Except.bind]
  | ok n => simp [bind, Except.bind, Space.insert_ofNodes_eq_ok_iff]

/-- Entries are added to the tree over a list if their nodes can be added behind it. -/
theorem foldlM_addEntry_eq_ok_iff {ns : List Node} (h : Admitted ns) {entries : List CatalogEntry}
    {t : Space} :
    entries.foldlM addEntry (.ofNodes ns) = .ok t ↔
      ∃ more, List.Forall₂ (fun c n => c.node = .ok n) entries more ∧ Admitted (ns ++ more) ∧
        t = .ofNodes (ns ++ more) := by
  induction entries generalizing ns with
  | nil => simp [pure, Except.pure, h, eq_comm]
  | cons c rest ih =>
    rw [List.foldlM_cons]
    constructor
    · intro ht
      cases hadd : addEntry (.ofNodes ns) c with
      | error err => simp [hadd, bind, Except.bind] at ht
      | ok u =>
        obtain ⟨n, hc, hn, rfl⟩ := addEntry_eq_ok_iff.1 hadd
        rw [hadd] at ht
        obtain ⟨more, hmore, hall, rfl⟩ := (ih (h.concat hn)).1 ht
        rw [List.append_assoc] at hall ⊢
        exact ⟨n :: more, .cons hc hmore, hall, rfl⟩
    · rintro ⟨_, hmore, hall, rfl⟩
      obtain ⟨n, more, hc, hrest, rfl⟩ := List.forall₂_cons_left_iff.1 hmore
      rw [List.append_cons] at hall
      -- The node fits behind those in front of it, whatever comes later.
      have hn : Admissible ns n := (Admitted.concat_iff.1 hall.of_append).2
      rw [addEntry_eq_ok_iff.2 ⟨n, hc, hn, rfl⟩]
      exact (ih (h.concat hn)).2 ⟨more, hrest, hall, by rw [List.append_cons]⟩

/-- **The tree of a catalog.** -/
theorem build_eq_ok_iff {entries : List CatalogEntry} {t : Space} :
    build entries = .ok t ↔
      ∃ ns, List.Forall₂ (fun c n => c.node = .ok n) entries ns ∧ Admitted ns ∧
        t = .ofNodes ns := by
  rw [build, ← Space.ofNodes_nil, foldlM_addEntry_eq_ok_iff .nil]
  simp only [List.nil_append]

end Catalog

namespace TreeSettings

variable {t : TreeSettings} {s : Space}

theorem space_eq_ok_iff :
    t.space = .ok s ↔
      ∃ ns, List.Forall₂ (fun c n => c.node = .ok n) t.catalog ns ∧ Admitted ns ∧
        s = .ofNodes ns := Catalog.build_eq_ok_iff

/-- The catalog in use has an entry. -/
theorem catalog_ne_nil (t : TreeSettings) : t.catalog ≠ [] := by
  rw [catalog, Catalog.effective]
  split
  · simp [Catalog.builtin]
  · rename_i h
    simpa using h

/-- The root of the tree in use is the first node of its catalog with an address of one segment. -/
theorem exists_root (h : t.space = .ok s) :
    ∃ ns root, List.Forall₂ (fun c n => c.node = .ok n) t.catalog ns ∧
      ns.find? (·.address.depth = 1) = some root ∧ s.root? = some root ∧
      s.resolve? root.address = some root := by
  obtain ⟨ns, hns, hall, rfl⟩ := space_eq_ok_iff.1 h
  have hne : ns ≠ [] := fun hnil => by
    rw [hnil, List.forall₂_nil_right_iff] at hns
    exact t.catalog_ne_nil hns
  have hroot : (Space.ofNodes ns).root? = some (ns.head hne) := by
    rw [Space.root?_ofNodes hall, List.head?_eq_some_head hne]
  refine ⟨ns, ns.head hne, hns, ?_, hroot, ?_⟩
  · rw [← hroot, Space.root?, Space.nodes_ofNodes hall]
  · exact (Space.resolve?_ofNodes_eq_some_iff hall).2 ⟨List.head_mem hne, rfl⟩

end TreeSettings

end ActionTree
