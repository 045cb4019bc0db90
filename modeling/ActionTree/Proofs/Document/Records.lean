import ActionTree.Space.Codec
import Mathlib.Data.List.Basic

/-!
# Records that are read back

A record is written as an object whose members have keys of their own, some of which may be left
out. It is read by its names: a name has the entry of its member, or none. So what is written and
what a reader makes of it can be compared name by name.

* `Json.written`: members of which some are left out.
* `Document.record?_written`: an object of such members, read as a record.
* `Entry.required_ofOption`, `Entry.optional_ofOption`: what a reader makes of a member.
* `Document.list?_map`, `Document.tableOf?_map`: sequences and tables of values that are read back.
-/

namespace ActionTree

/-- A reader behind another one takes what that gives. -/
theorem read_then {α β : Type} {x : Option α} {a : α} {f : α → Option β} {b : β} (hx : x = some a)
    (hf : f a = some b) : x >>= f = some b := by
  rw [hx]
  exact hf

/-! ## Members -/

namespace Json

/-- The members of an object; those without a value are left out. -/
def written (ms : Fields (Option Json)) : Fields Json :=
  ms.flatMap fun m => optionalMember m.1 m.2

@[simp] theorem optionalMember_some (key : String) (v : Json) :
    optionalMember key (some v) = [(key, v)] := rfl

@[simp] theorem optionalMember_none (key : String) : optionalMember key none = [] := rfl

@[simp] theorem written_nil : written [] = [] := rfl

@[simp] theorem written_cons (key : String) (v : Option Json) (ms : Fields (Option Json)) :
    written ((key, v) :: ms) = optionalMember key v ++ written ms := List.flatMap_cons

theorem keys_written_sublist (ms : Fields (Option Json)) : (written ms).keys.Sublist ms.keys := by
  induction ms with
  | nil => exact .slnil
  | cons m rest ih =>
    obtain ⟨key, v⟩ := m
    cases v with
    | none => exact ih.cons key
    | some v => exact ih.cons_cons key

theorem nodup_keys_written {ms : Fields (Option Json)} (h : ms.keys.Nodup) :
    (written ms).keys.Nodup := h.sublist (keys_written_sublist ms)

end Json

namespace Fields

variable {α : Type}

theorem get?_of_not_mem {key : String} {fs : Fields α} (h : key ∉ fs.keys) :
    get? key fs = none := by
  cases hget : get? key fs with
  | none => rfl
  | some v => exact absurd (List.mem_map_of_mem (mem_of_get? hget)) h

theorem get?_optionalMember (key k : String) (v : Option Json) (fs : Fields Json) :
    get? key (Json.optionalMember k v ++ fs) =
      if k = key then v.or (get? key fs) else get? key fs := by
  cases v with
  | none => rw [Json.optionalMember_none, List.nil_append, Option.none_or, ite_self]
  | some v => rfl

/-- A member is there if it has a value. -/
theorem get?_written {ms : Fields (Option Json)} (h : ms.keys.Nodup) (key : String) :
    get? key (Json.written ms) = (get? key ms).join := by
  induction ms with
  | nil => rfl
  | cons m rest ih =>
    obtain ⟨k, v⟩ := m
    obtain ⟨hnot, hrest⟩ := List.nodup_cons.1 h
    rw [Json.written_cons, get?_optionalMember, get?_cons]
    split
    · rename_i hk
      -- The key does not come again, so a member that is left out has no later one in its place.
      have habsent : key ∉ (Json.written rest).keys := fun hmem =>
        hnot ((Json.keys_written_sublist rest).mem (hk ▸ hmem))
      rw [get?_of_not_mem habsent, Option.or_none]
      rfl
    · exact ih hrest

end Fields

/-! ## Entries -/

namespace Entry

/-- The entry of a member. -/
def ofOption : Option Json → Entry
  | some v => .given (.value v)
  | none => .absent

variable {α : Type} {decode : Document → Option α}

theorem required_ofOption {v : Json} {a : α} (h : decode (.value v) = some a) :
    (ofOption (some v)).required decode = some a := h

/-- A member that is written if there is a value, and never as null. -/
theorem optional_ofOption {encode : α → Json} (hnull : ∀ a, encode a ≠ .null)
    (h : ∀ a, decode (.value (encode a)) = some a) (x : Option α) :
    (ofOption (x.map encode)).optional decode = some x := by
  cases x with
  | none => rfl
  | some a =>
    have hpresent : (Document.value (encode a)).isNull = false := by
      unfold Document.isNull
      split
      · exact absurd (Document.value.inj ‹_›) (hnull a)
      · rfl
    simp [ofOption, optional, defaulting, nullable, hpresent, h]

end Entry

namespace Document

/-- An object without a key that comes twice is a record of its members. -/
theorem record?_obj {ms : Fields Json} (h : ms.keys.Nodup) (markup : Markup)
    (names : List String) :
    (Document.value (.obj ms)).record? markup names =
      some (names.map fun name => .ofOption (ms.get? name)) := by
  have hentry : ∀ name, member? (ms.map fun m => (m.1, .value m.2)) name =
      some (.ofOption (ms.get? name)) := by
    intro name
    rw [member?, List.filter_map]
    simp only [Function.comp_def]
    rw [Fields.filter_key h name]
    cases ms.get? name <;> rfl
  change names.mapM (member? (ms.map fun m => (m.1, .value m.2))) = _
  induction names with
  | nil => rfl
  | cons name rest ih =>
    rw [List.mapM_cons, hentry, ih]
    rfl

theorem record?_written {ms : Fields (Option Json)} (h : ms.keys.Nodup) (markup : Markup)
    (names : List String) :
    (Document.value (.obj (Json.written ms))).record? markup names =
      some (names.map fun name => .ofOption (ms.get? name).join) := by
  rw [record?_obj (Json.nodup_keys_written h)]
  simp only [Fields.get?_written h]

/-! ## Sequences and tables -/

variable {α : Type} {decode : Document → Option α} {encode : α → Json}

/-- Values that are read back one by one are read back as a list. -/
theorem mapM_map {β γ : Type} {f : β → γ} {read : γ → Option β} {xs : List β}
    (h : ∀ x ∈ xs, read (f x) = some x) : (xs.map f).mapM read = some xs := by
  induction xs with
  | nil => rfl
  | cons x rest ih =>
    obtain ⟨hx, hrest⟩ := List.forall_mem_cons.1 h
    rw [List.map_cons, List.mapM_cons, hx, ih hrest]
    rfl

theorem list?_map {xs : List α} (h : ∀ x ∈ xs, decode (.value (encode x)) = some x) :
    (Document.value (.arr (xs.map encode))).list? decode = some xs := by
  have hitems : (xs.map encode).map Document.value = xs.map fun x => .value (encode x) :=
    List.map_map
  change ((xs.map encode).map Document.value).mapM decode = some xs
  rw [hitems]
  exact mapM_map h

theorem tableOf?_map {xs : Fields α} (h : ∀ x ∈ xs, decode (.value (encode x.2)) = some x.2) :
    (Document.value (.obj (xs.map fun x => (x.1, encode x.2)))).tableOf? decode = some xs :=
  mapM_map fun x hx => by rw [h x hx]; rfl

/-- An object is a table of values as it stands. -/
theorem tableOf?_json (ms : Fields Json) :
    (Document.value (.obj ms)).tableOf? Document.json? = some ms := by
  have hmembers : (ms.map id).mapM (fun m => (json? (.value m.2)).map (m.1, ·)) = some ms :=
    mapM_map fun _ _ => rfl
  rwa [List.map_id] at hmembers

end Document

end ActionTree
