import ActionTree.Line.Command
import Mathlib.Data.List.Basic

/-!
# References and their offences

A template is resolved if all references in its value can be used, and the error is that of the
first one that cannot, in the order of the document: items from left to right, members in their
order, references of a string from left to right.

* `Json.refs`: the references of a value in that order.
* `StepRef.Usable`: a reference means a success of the log.
* `Template.offence?_resolve`: the error of a template is the first offence of its value.
* `Template.exists_resolve_iff`, `Template.resolve_eq_error_iff`: when a value is resolved, and
  with which error it is not.
-/

namespace ActionTree

/-- The reference that a piece of a text is. -/
def Cut.ref? : Cut → Option StepRef
  | .char _ => none
  | .ref r => some r

/-- The reference that a segment is. -/
def Segment.ref? : Segment → Option StepRef
  | .text _ => none
  | .ref r => some r

namespace Json

mutual

/-- The references of a value, in the order of the document. -/
def refs : Json → List StepRef
  | .str s => (cuts s.toList).filterMap Cut.ref?
  | .arr items => refsOfItems items
  | .obj members => refsOfMembers members
  | .null | .bool _ | .int _ | .float _ => []

/-- The references of items, from left to right. -/
def refsOfItems : List Json → List StepRef
  | [] => []
  | v :: rest => refs v ++ refsOfItems rest

/-- The references of members, in their order. -/
def refsOfMembers : List (String × Json) → List StepRef
  | [] => []
  | (_, v) :: rest => refs v ++ refsOfMembers rest

end

end Json

/-- The references of the arguments of a step. -/
def Step.refs (s : Step) : List StepRef := (Json.obj s.rawArgs).refs

/-- A reference can be used behind a log: it means a step of it that succeeded. -/
def StepRef.Usable (log : List Record) (r : StepRef) : Prop :=
  let i := Template.target log.length r
  1 ≤ i ∧ i ≤ log.length ∧ ∃ record, log[i - 1]? = some record ∧ record.success = true

namespace Template

/-- The error that a template is resolved to, if it is. -/
def offence? {α : Type} : Except ReferenceError α → Option ReferenceError
  | .ok _ => none
  | .error err => some err

@[simp] theorem offence?_ok {α : Type} (a : α) :
    offence? (.ok a : Except ReferenceError α) = none := rfl

@[simp] theorem offence?_error {α : Type} (err : ReferenceError) :
    offence? (.error err : Except ReferenceError α) = some err := rfl

theorem offence?_eq_none_iff {α : Type} {x : Except ReferenceError α} :
    offence? x = none ↔ ∃ a, x = .ok a := by
  cases x <;> simp

theorem offence?_eq_some_iff {α : Type} {x : Except ReferenceError α} {err : ReferenceError} :
    offence? x = some err ↔ x = .error err := by
  cases x <;> simp

/-- Of two steps the offence of the first counts. -/
theorem offence?_bind {α β : Type} {x : Except ReferenceError α}
    {f : α → Except ReferenceError β} {o : Option ReferenceError} (h : ∀ a, offence? (f a) = o) :
    offence? (x >>= f) = (offence? x).or o := by
  cases x with
  | ok a => exact h a
  | error err => rfl

theorem offence?_bind_pure {α β : Type} (x : Except ReferenceError α) (f : α → β) :
    offence? (do return f (← x)) = offence? x := by
  cases x <;> rfl

variable (log : List Record)

/-! ## One reference -/

theorem lookup_of_unknown {r : StepRef}
    (h : target log.length r = 0 ∨ log.length < target log.length r) :
    lookup r log = .error (.unknownStep (target log.length r) log.length) := by
  simp only [lookup]
  split
  · rfl
  · rw [List.getElem?_eq_none (by omega)]

theorem lookup_of_known {r : StepRef} {record : Record} (hpos : target log.length r ≠ 0)
    (h : log[target log.length r - 1]? = some record) :
    lookup r log = if record.success then .ok record.output
      else .error (.failedStep (target log.length r)) := by
  simp only [lookup, if_neg hpos, h]

/-- What is wrong with a reference that cannot be used. -/
theorem lookup_of_unusable {log : List Record} {r : StepRef} (h : ¬r.Usable log) :
    let i := target log.length r
    ∃ err, lookup r log = .error err ∧ (1 ≤ i → i ≤ log.length → err = .failedStep i) ∧
      (i = 0 ∨ log.length < i → err = .unknownStep i log.length) := by
  intro i
  by_cases hunknown : i = 0 ∨ log.length < i
  · exact ⟨_, lookup_of_unknown log hunknown, by omega, fun _ => rfl⟩
  obtain ⟨record, hrecord⟩ : ∃ record, log[i - 1]? = some record :=
    ⟨_, List.getElem?_eq_getElem (by omega)⟩
  have hfailed : record.success = false := by
    rw [← Bool.not_eq_true]
    exact fun hsuccess => h ⟨by omega, by omega, record, hrecord, hsuccess⟩
  refine ⟨.failedStep i, ?_, fun _ _ => rfl, fun h => absurd h hunknown⟩
  rw [lookup_of_known log (by omega) hrecord, hfailed]
  rfl

theorem offence?_lookup_eq_none_iff {r : StepRef} :
    offence? (lookup r log) = none ↔ r.Usable log := by
  constructor
  · intro hnone
    by_contra hunusable
    obtain ⟨err, herr, -⟩ := lookup_of_unusable hunusable
    rw [herr] at hnone
    cases hnone
  · rintro ⟨hpos, -, record, hrecord, hsuccess⟩
    rw [lookup_of_known log (Nat.ne_of_gt hpos) hrecord, hsuccess]
    rfl

/-! ## Strings -/

/-- Joining a character to what follows keeps the references. -/
theorem filterMap_pushChar (c : Char) (rest : List (List Char ⊕ StepRef)) :
    ((pushChar c rest).map segment).filterMap Segment.ref? =
      (rest.map segment).filterMap Segment.ref? := by
  unfold pushChar
  split <;> rfl

theorem filterMap_runs (cs : List Cut) :
    ((runs cs).map segment).filterMap Segment.ref? = cs.filterMap Cut.ref? := by
  induction cs with
  | nil => rfl
  | cons cut rest ih =>
    cases cut with
    | ref r => simpa [runs, segment, Segment.ref?, Cut.ref?] using ih
    | char c =>
      rw [runs, filterMap_pushChar, ih]
      rfl

theorem offence?_interpolate (segments : List Segment) :
    offence? (interpolate log segments) =
      (segments.filterMap Segment.ref?).findSome? fun r => offence? (lookup r log) := by
  induction segments with
  | nil => rfl
  | cons s rest ih =>
    have htail : ∀ cs : List Char, offence? (do return cs ++ (← interpolate log rest)) =
        (rest.filterMap Segment.ref?).findSome? fun r => offence? (lookup r log) := fun cs => by
      rw [offence?_bind_pure, ih]
    cases s with
    | text t => exact htail _
    | ref r =>
      have hcons : (Segment.ref r :: rest).filterMap Segment.ref? =
          r :: rest.filterMap Segment.ref? := rfl
      rw [interpolate, offence?_bind fun _ => htail _, hcons, List.findSome?_cons]
      cases offence? (lookup r log) <;> rfl

theorem offence?_ofSegments (segments : List Segment) :
    offence? (resolve log (ofSegments segments)) =
      (segments.filterMap Segment.ref?).findSome? fun r => offence? (lookup r log) := by
  unfold ofSegments
  split
  · rfl
  · rfl
  · rename_i r
    have hsingle : [Segment.ref r].filterMap Segment.ref? = [r] := rfl
    rw [resolve, hsingle, List.findSome?_singleton]
  · rw [resolve, offence?_bind_pure, offence?_interpolate]

/-! ## Values -/

mutual

/-- The error of a template is the first offence among the references of its value. -/
theorem offence?_resolve : ∀ v : Json, offence? (resolve log (compile v)) =
    v.refs.findSome? fun r => offence? (lookup r log)
  | .str s => by rw [compile, compileString, offence?_ofSegments, filterMap_runs, Json.refs]
  | .arr items => by
    rw [compile, resolve, offence?_bind_pure, offence?_resolveItems items, Json.refs]
  | .obj members => by
    rw [compile, resolve, offence?_bind_pure, offence?_resolveMembers members, Json.refs]
  | .null | .bool _ | .int _ | .float _ => rfl

theorem offence?_resolveItems : ∀ items : List Json,
    offence? (resolveItems log (compileItems items)) =
      (Json.refsOfItems items).findSome? fun r => offence? (lookup r log)
  | [] => rfl
  | v :: rest => by
    have htail : ∀ w, offence? (do return w :: (← resolveItems log (compileItems rest))) =
        (Json.refsOfItems rest).findSome? fun r => offence? (lookup r log) := fun w => by
      rw [offence?_bind_pure, offence?_resolveItems rest]
    rw [compileItems, resolveItems, offence?_bind htail, offence?_resolve v, Json.refsOfItems,
      List.findSome?_append]

theorem offence?_resolveMembers : ∀ members : List (String × Json),
    offence? (resolveMembers log (compileMembers members)) =
      (Json.refsOfMembers members).findSome? fun r => offence? (lookup r log)
  | [] => rfl
  | (k, v) :: rest => by
    have htail : ∀ w, offence? (do return (k, w) :: (← resolveMembers log (compileMembers rest))) =
        (Json.refsOfMembers rest).findSome? fun r => offence? (lookup r log) := fun w => by
      rw [offence?_bind_pure, offence?_resolveMembers rest]
    rw [compileMembers, resolveMembers, offence?_bind htail, offence?_resolve v, Json.refsOfMembers,
      List.findSome?_append]

end

/-- A value is resolved if all of its references can be used. -/
theorem exists_resolve_iff {v : Json} :
    (∃ w, resolve log (compile v) = .ok w) ↔ ∀ r ∈ v.refs, r.Usable log := by
  rw [← offence?_eq_none_iff, offence?_resolve, List.findSome?_eq_none_iff]
  simp only [offence?_lookup_eq_none_iff]

/-- The error of a value is that of its first reference that has one. -/
theorem resolve_eq_error_iff {v : Json} {err : ReferenceError} :
    resolve log (compile v) = .error err ↔ ∃ good bad rest, v.refs = good ++ bad :: rest ∧
      lookup bad log = .error err ∧ ∀ r ∈ good, ∃ o, lookup r log = .ok o := by
  rw [← offence?_eq_some_iff, offence?_resolve, List.findSome?_eq_some_iff]
  simp only [offence?_eq_some_iff, offence?_eq_none_iff]

end Template

/-! ## Steps -/

namespace Step

variable {s : Step} {log : List Record}

/-- The arguments of a step have values if all of their references can be used. -/
theorem resolve_ok_iff :
    (∃ args, s.template.resolve log = .ok args) ↔ ∀ r ∈ s.refs, r.Usable log :=
  Template.exists_resolve_iff log (v := .obj s.rawArgs)

/-- The first reference that cannot be used is the error. -/
theorem resolve_error {good rest : List StepRef} {bad : StepRef} {err : ReferenceError}
    (hrefs : s.refs = good ++ bad :: rest) (hgood : ∀ r ∈ good, r.Usable log)
    (hbad : Template.lookup bad log = .error err) : s.template.resolve log = .error err := by
  refine (Template.resolve_eq_error_iff log (v := .obj s.rawArgs)).2
    ⟨good, bad, rest, hrefs, hbad, fun r hr => ?_⟩
  rw [← Template.offence?_eq_none_iff, Template.offence?_lookup_eq_none_iff]
  exact hgood r hr

end Step

end ActionTree
