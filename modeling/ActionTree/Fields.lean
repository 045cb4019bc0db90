/-!
# Tables sorted by key

`Fields α` is an association list. `put` keeps the keys in increasing order (by code point, which is
also the order of their UTF-8 bytes) and replaces the value of a key that is present, so a table
built by `put` lists each key once.

In the program: its JSON objects and its ordered maps by name.

* `get?_put`: after a `put`, the key has the new value and every other key its old one.
* `Sorted.put`, `Sorted.erase`: both operations keep the order.
-/

namespace ActionTree

/-- A table: values under string keys. -/
abbrev Fields (α : Type) := List (String × α)

namespace Fields

variable {α β : Type}

/-- The value under a key. -/
def get? (key : String) : Fields α → Option α
  | [] => none
  | (k, v) :: rest => if k = key then some v else get? key rest

/-- The table with a value set under a key. -/
def put (key : String) (value : α) : Fields α → Fields α
  | [] => [(key, value)]
  | (k, v) :: rest =>
    if key < k then (key, value) :: (k, v) :: rest
    else if key = k then (key, value) :: rest
    else (k, v) :: put key value rest

/-- The table without a key. -/
def erase (key : String) : Fields α → Fields α
  | [] => []
  | (k, v) :: rest => if k = key then erase key rest else (k, v) :: erase key rest

/-- Is the key present? -/
def has (key : String) (fs : Fields α) : Bool := (get? key fs).isSome

/-- The keys, in order. -/
def keys (fs : Fields α) : List String := fs.map (·.1)

/-- The values, in the order of their keys. -/
def values (fs : Fields α) : List α := fs.map (·.2)

/-- The table of a list of members: of two with one key the later counts. -/
def ofList (members : List (String × α)) : Fields α := members.foldl (fun t m => put m.1 m.2 t) []

/-- Keys strictly increase. -/
def Sorted (fs : Fields α) : Prop := fs.keys.Pairwise (· < ·)

@[simp] theorem get?_nil (key : String) : get? key ([] : Fields α) = none := rfl

theorem get?_cons (key k : String) (v : α) (rest : Fields α) :
    get? key ((k, v) :: rest) = if k = key then some v else get? key rest := rfl

@[simp] theorem get?_put_self (key : String) (value : α) (fs : Fields α) :
    get? key (put key value fs) = some value := by
  induction fs with
  | nil => simp [put, get?]
  | cons m rest ih =>
    obtain ⟨k, v⟩ := m
    simp only [put]
    split
    · simp [get?]
    split
    · simp [get?]
    · rename_i h
      simp [get?, Ne.symm h, ih]

theorem get?_put_of_ne {key other : String} (h : other ≠ key) (value : α) (fs : Fields α) :
    get? other (put key value fs) = get? other fs := by
  induction fs with
  | nil => simp [put, get?, Ne.symm h]
  | cons m rest ih =>
    obtain ⟨k, v⟩ := m
    simp only [put]
    split
    · simp [get?, Ne.symm h]
    split
    · rename_i hk
      subst hk
      simp [get?, Ne.symm h]
    · simp [get?, ih]

theorem get?_put (key other : String) (value : α) (fs : Fields α) :
    get? other (put key value fs) = if other = key then some value else get? other fs := by
  split
  · rename_i h
    simp [h]
  · exact get?_put_of_ne ‹_› value fs

theorem get?_erase (key other : String) (fs : Fields α) :
    get? other (erase key fs) = if other = key then none else get? other fs := by
  induction fs with
  | nil => simp [erase]
  | cons m rest ih =>
    obtain ⟨k, v⟩ := m
    by_cases hk : k = key
    · subst hk
      rw [erase, if_pos rfl, ih, get?]
      split
      · rfl
      · rw [if_neg (Ne.symm ‹_›)]
    · by_cases hko : k = other
      · subst hko
        simp [erase, get?, hk]
      · simp [erase, get?, hk, hko, ih]

theorem mem_of_get? {key : String} {v : α} {fs : Fields α} (h : fs.get? key = some v) :
    (key, v) ∈ fs := by
  induction fs with
  | nil => cases h
  | cons m rest ih =>
    obtain ⟨k, u⟩ := m
    rw [get?_cons] at h
    split at h
    · rename_i hk
      cases h
      exact hk ▸ List.mem_cons_self
    · exact List.mem_cons_of_mem _ (ih h)

theorem mem_of_mem_put {key : String} {value : α} {fs : Fields α} {m : String × α}
    (h : m ∈ fs.put key value) : m = (key, value) ∨ m ∈ fs := by
  induction fs with
  | nil => exact .inl (List.mem_singleton.1 h)
  | cons entry rest ih =>
    obtain ⟨k, v⟩ := entry
    simp only [put] at h
    split at h
    · exact List.mem_cons.1 h
    split at h
    · exact (List.mem_cons.1 h).imp_right (List.mem_cons_of_mem _)
    · rcases List.mem_cons.1 h with h | h
      · exact .inr (h ▸ List.mem_cons_self)
      · exact (ih h).imp_right (List.mem_cons_of_mem _)

theorem mem_keys_of_mem_put {key x : String} {value : α} {fs : Fields α}
    (h : x ∈ (put key value fs).keys) :
    x = key ∨ x ∈ fs.keys := by
  induction fs with
  | nil => simpa [put, keys] using h
  | cons m rest ih =>
    obtain ⟨k, v⟩ := m
    simp only [put] at h
    split at h
    · simpa [keys] using h
    split at h
    · simp only [keys, List.map_cons, List.mem_cons] at h ⊢
      exact h.imp_right .inr
    · simp only [keys, List.map_cons, List.mem_cons] at h ih ⊢
      rcases h with h | h
      · exact .inr (.inl h)
      · exact (ih h).imp_right .inr

theorem Sorted.put {fs : Fields α} (h : Sorted fs) (key : String) (value : α) :
    Sorted (fs.put key value) := by
  induction fs with
  | nil => simp [Sorted, Fields.put, keys]
  | cons m rest ih =>
    obtain ⟨k, v⟩ := m
    obtain ⟨least, sorted⟩ := List.pairwise_cons.1 h
    simp only [Fields.put]
    split
    · rename_i before
      refine List.pairwise_cons.2 ⟨fun x hx => ?_, h⟩
      rcases List.mem_cons.1 hx with hx | hx
      · exact hx ▸ before
      · exact String.lt_trans before (least x hx)
    split
    · rename_i same
      exact List.pairwise_cons.2 ⟨fun x hx => same ▸ least x hx, sorted⟩
    · rename_i notBefore other
      refine List.pairwise_cons.2 ⟨fun x hx => ?_, ih sorted⟩
      rcases mem_keys_of_mem_put hx with hx | hx
      · subst hx
        exact String.not_le.1 fun h => other (String.le_antisymm (String.not_lt.1 notBefore) h).symm
      · exact least x hx

theorem mem_of_mem_erase {key : String} {fs : Fields α} {m : String × α} (h : m ∈ fs.erase key) :
    m ∈ fs := by
  induction fs with
  | nil => exact h
  | cons entry rest ih =>
    obtain ⟨k, v⟩ := entry
    rw [erase] at h
    split at h
    · exact List.mem_cons_of_mem _ (ih h)
    · exact List.mem_cons.2 ((List.mem_cons.1 h).imp_right ih)

theorem mem_keys_of_mem_erase {key x : String} {fs : Fields α} (h : x ∈ (erase key fs).keys) :
    x ∈ fs.keys := by
  induction fs with
  | nil => exact h
  | cons m rest ih =>
    obtain ⟨k, v⟩ := m
    simp only [erase] at h
    split at h
    · exact List.mem_cons_of_mem _ (ih h)
    · rcases List.mem_cons.1 h with h | h
      · exact List.mem_cons.2 (.inl h)
      · exact List.mem_cons_of_mem _ (ih h)

theorem Sorted.erase {fs : Fields α} (h : Sorted fs) (key : String) :
    Sorted (fs.erase key) := by
  induction fs with
  | nil => exact h
  | cons m rest ih =>
    obtain ⟨k, v⟩ := m
    obtain ⟨least, sorted⟩ := List.pairwise_cons.1 h
    simp only [Fields.erase]
    split
    · exact ih sorted
    · exact List.pairwise_cons.2 ⟨fun x hx => least x (mem_keys_of_mem_erase hx), ih sorted⟩

/-- A table in order has a key at most once. -/
theorem Sorted.nodup {fs : Fields α} (h : Sorted fs) : fs.keys.Nodup := by
  refine List.Pairwise.imp ?_ h
  rintro a b hlt rfl
  exact String.lt_irrefl a hlt

theorem filter_key_of_not_mem {key : String} {fs : Fields α} (h : key ∉ fs.keys) :
    fs.filter (·.1 = key) = [] := by
  refine List.filter_eq_nil_iff.2 fun m hm => ?_
  rw [decide_eq_true_eq]
  exact fun hkey => h (hkey ▸ List.mem_map_of_mem hm)

/-- The members under a key that a table has at most once. -/
theorem filter_key {fs : Fields α} (h : fs.keys.Nodup) (key : String) :
    fs.filter (·.1 = key) = ((fs.get? key).map (key, ·)).toList := by
  induction fs with
  | nil => rfl
  | cons m rest ih =>
    obtain ⟨k, v⟩ := m
    obtain ⟨hnot, hrest⟩ := List.nodup_cons.1 h
    rw [List.filter_cons, get?_cons]
    by_cases hk : k = key
    · simp [hk, filter_key_of_not_mem (hk ▸ hnot)]
    · simpa [hk] using ih hrest

theorem Sorted.filter_key {fs : Fields α} (h : Sorted fs) (key : String) :
    fs.filter (·.1 = key) = ((fs.get? key).map (key, ·)).toList := Fields.filter_key h.nodup key

end Fields

end ActionTree
