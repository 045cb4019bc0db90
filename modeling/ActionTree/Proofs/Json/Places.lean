import ActionTree.Json.Basic
import Mathlib.Data.List.Basic

/-!
# Places and strings of a value

A place in a JSON value is given by the branches that lead to it. A function on strings that is
applied to all strings of a value leaves the rest of the value as it is: every place stays, an array
keeps its length and an object its keys.

* `Json.at?`: the value at a place.
* `Json.texts`: the strings of a value; keys do not count.
* `Json.mapStrings`: the value with other values in the places of its strings.
* `Json.at?_mapStrings`: a place of a value is one of the mapped value.
-/

namespace ActionTree

namespace Json

/-! ## Places -/

/-- Where a value goes on: at the member under a key, or at the item with a number. -/
inductive Branch where
  | member (key : String)
  | item (i : Nat)

/-- The value at a branch. -/
def branch? : Branch → Json → Option Json
  | .member key, v => v.get? key
  | .item i, v => v.items?.bind (·[i]?)

/-- The value at a place. -/
def at? : List Branch → Json → Option Json
  | [], v => some v
  | b :: rest, v => (branch? b v).bind (at? rest)

/-! ## Strings -/

mutual

/-- The strings of a value, in the order of the document. -/
def texts : Json → List String
  | .str s => [s]
  | .arr items => textsOfItems items
  | .obj members => textsOfMembers members
  | .null | .bool _ | .int _ | .float _ => []

/-- The strings of items, from left to right. -/
def textsOfItems : List Json → List String
  | [] => []
  | v :: rest => texts v ++ textsOfItems rest

/-- The strings of the values of members, in their order. -/
def textsOfMembers : List (String × Json) → List String
  | [] => []
  | (_, v) :: rest => texts v ++ textsOfMembers rest

end

mutual

/-- A value with another value in the place of each string. -/
def mapStrings (f : String → Json) : Json → Json
  | .str s => f s
  | .arr items => .arr (mapItems f items)
  | .obj members => .obj (mapMembers f members)
  | .null => .null
  | .bool b => .bool b
  | .int i => .int i
  | .float x => .float x

/-- Items with other values in the places of their strings. -/
def mapItems (f : String → Json) : List Json → List Json
  | [] => []
  | v :: rest => mapStrings f v :: mapItems f rest

/-- Members with other values in the places of their strings. -/
def mapMembers (f : String → Json) : List (String × Json) → List (String × Json)
  | [] => []
  | (k, v) :: rest => (k, mapStrings f v) :: mapMembers f rest

end

variable {f g : String → Json}

mutual

/-- A value in which each string stays is the value. -/
theorem mapStrings_str : ∀ v : Json, v.mapStrings .str = v
  | .str s => rfl
  | .arr items => by rw [mapStrings, mapItems_str items]
  | .obj members => by rw [mapStrings, mapMembers_str members]
  | .null | .bool _ | .int _ | .float _ => rfl

theorem mapItems_str : ∀ items : List Json, mapItems .str items = items
  | [] => rfl
  | v :: rest => by rw [mapItems, mapStrings_str v, mapItems_str rest]

theorem mapMembers_str : ∀ members : List (String × Json), mapMembers .str members = members
  | [] => rfl
  | (k, v) :: rest => by rw [mapMembers, mapStrings_str v, mapMembers_str rest]

end

mutual

/-- What stands in the places of the strings depends on the strings of the value only. -/
theorem mapStrings_congr : ∀ v : Json, (∀ s ∈ v.texts, f s = g s) →
    v.mapStrings f = v.mapStrings g
  | .str s, h => h s (List.mem_singleton_self s)
  | .arr items, h => by rw [mapStrings, mapItems_congr items h, mapStrings]
  | .obj members, h => by rw [mapStrings, mapMembers_congr members h, mapStrings]
  | .null, _ | .bool _, _ | .int _, _ | .float _, _ => rfl

theorem mapItems_congr : ∀ items : List Json, (∀ s ∈ textsOfItems items, f s = g s) →
    mapItems f items = mapItems g items
  | [], _ => rfl
  | v :: rest, h => by
    rw [mapItems, mapStrings_congr v fun s hs => h s (List.mem_append_left _ hs),
      mapItems_congr rest fun s hs => h s (List.mem_append_right _ hs), mapItems]

theorem mapMembers_congr : ∀ members : List (String × Json),
    (∀ s ∈ textsOfMembers members, f s = g s) → mapMembers f members = mapMembers g members
  | [], _ => rfl
  | (k, v) :: rest, h => by
    rw [mapMembers, mapStrings_congr v fun s hs => h s (List.mem_append_left _ hs),
      mapMembers_congr rest fun s hs => h s (List.mem_append_right _ hs), mapMembers]

end

mutual

/-- The strings of the new value are those of what stands in the places of strings. -/
theorem texts_mapStrings : ∀ v : Json, (v.mapStrings f).texts = v.texts.flatMap fun s => (f s).texts
  | .str s => by rw [mapStrings, texts, List.flatMap_singleton]
  | .arr items => by rw [mapStrings, texts, texts, texts_mapItems items]
  | .obj members => by rw [mapStrings, texts, texts, texts_mapMembers members]
  | .null | .bool _ | .int _ | .float _ => rfl

theorem texts_mapItems : ∀ items : List Json,
    textsOfItems (mapItems f items) = (textsOfItems items).flatMap fun s => (f s).texts
  | [] => rfl
  | v :: rest => by
    rw [mapItems, textsOfItems, textsOfItems, List.flatMap_append, texts_mapStrings v,
      texts_mapItems rest]

theorem texts_mapMembers : ∀ members : List (String × Json),
    textsOfMembers (mapMembers f members) = (textsOfMembers members).flatMap fun s => (f s).texts
  | [] => rfl
  | (k, v) :: rest => by
    rw [mapMembers, textsOfMembers, textsOfMembers, List.flatMap_append, texts_mapStrings v,
      texts_mapMembers rest]

end

theorem mapItems_eq (items : List Json) : mapItems f items = items.map (mapStrings f) := by
  induction items with
  | nil => rfl
  | cons v rest ih => rw [mapItems, ih, List.map_cons]

/-- Keys are no strings of a value. -/
@[simp] theorem keys_mapMembers (members : Fields Json) :
    Fields.keys (mapMembers f members) = members.keys := by
  induction members with
  | nil => rfl
  | cons m rest ih => exact congrArg (m.1 :: ·) ih

theorem get?_mapMembers (key : String) (members : Fields Json) :
    Fields.get? key (mapMembers f members) = (members.get? key).map (mapStrings f) := by
  induction members with
  | nil => rfl
  | cons m rest ih =>
    obtain ⟨k, v⟩ := m
    rw [mapMembers, Fields.get?_cons, Fields.get?_cons, ih]
    split <;> rfl

theorem branch?_mapStrings {b : Branch} {v u : Json} (h : v.branch? b = some u) :
    (v.mapStrings f).branch? b = some (u.mapStrings f) := by
  cases b with
  | member key =>
    cases v with
    | obj members =>
      have hmember : Fields.get? key members = some u := h
      rw [mapStrings, branch?, get?_obj, get?_mapMembers, hmember, Option.map_some]
    | _ => cases h
  | item i =>
    cases v with
    | arr items =>
      have hitem : items[i]? = some u := h
      rw [mapStrings, branch?, items?, Option.bind_some, mapItems_eq, List.getElem?_map, hitem,
        Option.map_some]
    | _ => cases h

/-- At each place of a value its mapped value stands. -/
theorem at?_mapStrings {place : List Branch} {v u : Json} (h : v.at? place = some u) :
    (v.mapStrings f).at? place = some (u.mapStrings f) := by
  induction place generalizing v with
  | nil => rw [at?, Option.some.inj h]
  | cons b rest ih =>
    obtain ⟨w, hw, hu⟩ := Option.bind_eq_some_iff.1 h
    rw [at?, branch?_mapStrings hw, Option.bind_some, ih hu]

end Json

end ActionTree
