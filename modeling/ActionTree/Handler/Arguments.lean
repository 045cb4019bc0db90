import ActionTree.Failure
import ActionTree.Json.Printer
import ActionTree.Text.Blank

/-!
# Arguments of handlers

Handlers take an argument under any of several names; the first that has a usable value counts.

In the program: `str_arg` (`stringArg?`), `required_str` (`requiredString`) and `text_arg`
(`textArg?`).

* `stringArg?`: a string, trimmed, that is not blank.
* `textArg?`: a string that is not blank, as it is, or another value as compact JSON.
-/

namespace ActionTree.Arguments

open Text

/-- A value that is a string with more than blanks, trimmed. -/
def usableString? (v : Json) : Option String :=
  v.string?.bind fun s => if (trim s.toList).isEmpty then none else some (trimmed s)

/-- The first argument, under one of some names, that is a string with more than blanks. -/
def stringArg? (args : Json) (names : List String) : Option String :=
  names.findSome? fun n => (args.get? n).bind usableString?

/-- The error that a needed argument is missing. -/
def missing (names : List String) : ExecutionError :=
  .invalidArguments ("'" ++ "' or '".intercalate names ++ "' is required")

/-- A string argument that is needed. -/
def requiredString (args : Json) (names : List String) : Except ExecutionError String :=
  match stringArg? args names with
  | some s => .ok s
  | none => .error (missing names)

/-- A value as text: null and blank strings are none. -/
def usableText? : Json → Option String
  | .null => none
  | .str s => if (trim s.toList).isEmpty then none else some s
  | v => some v.compact

/-- The first argument, under one of some names, that is a text. -/
def textArg? (args : Json) (names : List String) : Option String :=
  names.findSome? fun n => (args.get? n).bind usableText?

end ActionTree.Arguments
