import ActionTree.Json.Printer
import ActionTree.Session.Record
import ActionTree.Template.Token

/-!
# Argument templates

The arguments of a step are JSON values whose strings may contain reference tokens. `compile` turns
a value into a `Template` once, when the line is read; `resolve` puts the outputs of earlier steps
in, when the step runs.

A string that is one token and nothing else stands for the output itself; in a longer string the
text of the output takes the token's place (`Json.inText`). Keys of objects are never touched.

In the program: `Segment` and `ArgTemplate` (`Template`), with `compile`, `compile_args` (`ofArgs`),
`compile_str` (`compileString`), `has_refs`, `resolve` and `lookup`; the function `resolve` of
arguments is `resolveArgs`.

* `lookup`: the output that a reference stands for.
* `hasRefs`: does a template refer to anything?
-/

namespace ActionTree

/-- A part of a string with references: plain text or a reference. -/
inductive Segment where
  | text (t : String)
  | ref (r : StepRef)
  deriving DecidableEq

/-- A JSON value with references in place of outputs. -/
inductive Template where
  /-- A value without references. -/
  | literal (v : Json)
  /-- The output of a step. -/
  | ref (r : StepRef)
  /-- Text with outputs in it. -/
  | interpolated (segments : List Segment)
  | object (members : List (String × Template))
  | array (items : List Template)

namespace Template

/-- Segments in front of which a character is put: it joins text that follows. -/
def pushChar (c : Char) : List (List Char ⊕ StepRef) → List (List Char ⊕ StepRef)
  | .inl cs :: rest => .inl (c :: cs) :: rest
  | rest => .inl [c] :: rest

/-- Neighbouring characters joined to runs of text. -/
def runs : List Cut → List (List Char ⊕ StepRef)
  | [] => []
  | .ref r :: rest => .inr r :: runs rest
  | .char c :: rest => pushChar c (runs rest)

/-- A run of text or a reference as a segment. -/
def segment : List Char ⊕ StepRef → Segment
  | .inl cs => .text (String.ofList cs)
  | .inr r => .ref r

/-- The template of joined segments. -/
def ofSegments : List Segment → Template
  | [] => .literal (.str "")
  | [.text t] => .literal (.str t)
  | [.ref r] => .ref r
  | segments => .interpolated segments

/-- The template of a string. -/
def compileString (s : String) : Template := ofSegments ((runs (cuts s.toList)).map segment)

mutual

/-- The template of a value. -/
def compile : Json → Template
  | .str s => compileString s
  | .obj members => .object (compileMembers members)
  | .arr items => .array (compileItems items)
  | .null => .literal .null
  | .bool b => .literal (.bool b)
  | .int i => .literal (.int i)
  | .float x => .literal (.float x)

/-- The templates of items. -/
def compileItems : List Json → List Template
  | [] => []
  | v :: rest => compile v :: compileItems rest

/-- The templates of members. -/
def compileMembers : List (String × Json) → List (String × Template)
  | [] => []
  | (k, v) :: rest => (k, compile v) :: compileMembers rest

end

/-- The template of an argument object. -/
def ofArgs (args : Fields Json) : Template := .object (compileMembers args)

mutual

/-- Does a template refer to anything? -/
def hasRefs : Template → Bool
  | .literal _ => false
  | .ref _ => true
  | .interpolated _ => true
  | .object members => membersHaveRefs members
  | .array items => itemsHaveRefs items

/-- Does any item refer to anything? -/
def itemsHaveRefs : List Template → Bool
  | [] => false
  | t :: rest => hasRefs t || itemsHaveRefs rest

/-- Does any member refer to anything? -/
def membersHaveRefs : List (String × Template) → Bool
  | [] => false
  | (_, t) :: rest => hasRefs t || membersHaveRefs rest

end

/-- The number of the step that a reference means, in a log of some length. -/
def target (length : Nat) : StepRef → Nat
  | .index n => n
  | .last => length

/-- The output that a reference stands for. -/
def lookup (r : StepRef) (log : List Record) : Except ReferenceError Json :=
  let n := target log.length r
  if n = 0 then .error (.unknownStep n log.length)
  else match log[n - 1]? with
    | none => .error (.unknownStep n log.length)
    | some record => if record.success then .ok record.output else .error (.failedStep n)

/-- The text of segments, with outputs in place of references. -/
def interpolate (log : List Record) : List Segment → Except ReferenceError (List Char)
  | [] => .ok []
  | .text t :: rest => return t.toList ++ (← interpolate log rest)
  | .ref r :: rest => do
    let v ← lookup r log
    return v.inText.toList ++ (← interpolate log rest)

mutual

/-- The value of a template, with outputs in place of references. The first reference that cannot be
used is the error. -/
def resolve (log : List Record) : Template → Except ReferenceError Json
  | .literal v => .ok v
  | .ref r => lookup r log
  | .interpolated segments => return .str (String.ofList (← interpolate log segments))
  | .object members => return .obj (← resolveMembers log members)
  | .array items => return .arr (← resolveItems log items)

/-- The values of items. -/
def resolveItems (log : List Record) : List Template → Except ReferenceError (List Json)
  | [] => .ok []
  | t :: rest => return (← resolve log t) :: (← resolveItems log rest)

/-- The values of members. -/
def resolveMembers (log : List Record) :
    List (String × Template) → Except ReferenceError (List (String × Json))
  | [] => .ok []
  | (k, t) :: rest => return (k, ← resolve log t) :: (← resolveMembers log rest)

end

/-- An argument object with outputs in place of references: the object that its template is resolved
to, or the empty one if that is no object. -/
def resolveArgs (log : List Record) (args : Fields Json) : Except ReferenceError (Fields Json) := do
  match ← resolve log (ofArgs args) with
  | .obj members => return members
  | _ => return []

end Template

end ActionTree
