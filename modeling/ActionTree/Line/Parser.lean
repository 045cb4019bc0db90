import ActionTree.Json.Reader
import ActionTree.Line.Command
import ActionTree.Line.Split
import ActionTree.Text.Blank

/-!
# Reading a line

A line, without the blanks around it, has one of three forms:

* `jump ADDRESS [OBJECT]`, repeated with arrows between the steps: one step is a jump, more are a
  chain;
* `chain` and steps with arrows between them, where the word `jump` may be left out;
* digits and `[OBJECT]`: a shortcut to a child of the current node.

Keywords may be in any ASCII case. A malformed step rejects the whole line with the error of the
first such step.

In the program: `ParseError` and `parse_line` (`parse`), with `parse_step` (`parseStep`, and
`parseTarget` from the address on) and `parse_payload`.
-/

namespace ActionTree

/-- Why a line is rejected. -/
inductive ParseError where
  | empty
  | unknownCommand (word : String)
  | missingAddress (step : Nat)
  | invalidAddress (step : Nat) (address : String)
  | expectedJump (step : Nat) (found : String)
  | emptyStep (step : Nat)
  | invalidArguments (step : Nat) (reason : String)
  | argumentsNotObject (step : Nat)
  | unbalanced
  deriving DecidableEq

/-- What a parse error says. -/
def ParseError.message : ParseError → String
  | .empty => "empty command line"
  | .unknownCommand word => "unknown command: " ++ word
  | .missingAddress step => "step " ++ toString step ++ ": missing target address"
  | .invalidAddress step address =>
    "step " ++ toString step ++ ": invalid address '" ++ address ++ "'"
  | .expectedJump step found =>
    "step " ++ toString step ++ ": expected 'jump', found '" ++ found ++ "'"
  | .emptyStep step => "step " ++ toString step ++ ": empty chain step"
  | .invalidArguments step reason =>
    "step " ++ toString step ++ ": invalid JSON arguments: " ++ reason
  | .argumentsNotObject step => "step " ++ toString step ++ ": arguments must be a JSON object"
  | .unbalanced => "unterminated JSON payload"

namespace Line

open Text

/-- What is said of a payload that is no JSON text. -/
def malformedPayload : String := "malformed JSON text"

/-- The word that starts a step. -/
def jumpWord : List Char := ['j', 'u', 'm', 'p']

/-- The word that starts a chain. -/
def chainWord : List Char := ['c', 'h', 'a', 'i', 'n']

/-- The argument object of a step: empty if there is no payload. -/
def parsePayload (cs : List Char) (step : Nat) : Except ParseError (Fields Json) :=
  let payload := trim cs
  if payload.isEmpty then .ok []
  else match Json.parse? payload with
    | none => .error (.invalidArguments step malformedPayload)
    | some (.obj members) => .ok members
    | some _ => .error (.argumentsNotObject step)

/-- A step from its address on: the address and the payload. -/
def parseTarget (address payload : List Char) (step : Nat) : Except ParseError Step :=
  if address.isEmpty then .error (.missingAddress step)
  else match Address.parseChars? address with
    | none => .error (.invalidAddress step (String.ofList address))
    | some a => do return ⟨.absolute a, ← parsePayload payload step⟩

/-- One step of a line. The word `jump` is needed in front of it if `jumpNeeded`. -/
def parseStep (jumpNeeded : Bool) (text : List Char) (step : Nat) : Except ParseError Step :=
  let text := trim text
  if text.isEmpty then .error (.emptyStep step)
  else
    let (word, rest) := splitWord text
    if lower word = jumpWord then
      let (address, payload) := splitWord rest
      parseTarget address payload step
    else if jumpNeeded then .error (.expectedJump step (String.ofList word))
    else parseTarget word rest step

/-- The steps of pieces, numbered from `step` on. -/
def parseSteps (jumpNeeded : Bool) (step : Nat) : List (List Char) → Except ParseError (List Step)
  | [] => .ok []
  | p :: ps => do
    let s ← parseStep jumpNeeded p step
    return s :: (← parseSteps jumpNeeded (step + 1) ps)

/-- The steps of a text with arrows between them. -/
def parseChain (jumpNeeded : Bool) (text : List Char) : Except ParseError (List Step) :=
  match pieces? text with
  | none => .error .unbalanced
  | some ps => parseSteps jumpNeeded 1 ps

/-- The command of steps that start with the word `jump`: one step is a jump. -/
def ofJumps : List Step → Command
  | [s] => .jump s
  | ss => .chain ss

/-- A shortcut: its digits and its payload. -/
def parseShortcut (digits payload : List Char) : Except ParseError Command :=
  match Address.segment? digits with
  | none => .error (.invalidAddress 1 (String.ofList digits))
  | some n => do return .shortcut ⟨.relative n, ← parsePayload payload 1⟩

/-- The command of a line. -/
def parseChars (cs : List Char) : Except ParseError Command :=
  let line := trim cs
  if line.isEmpty then .error .empty
  else
    let (head, rest) := splitWord line
    let word := lower head
    if word = jumpWord then (parseChain true line).map ofJumps
    else if word = chainWord then
      if rest.isEmpty then .error (.missingAddress 1) else (parseChain false rest).map .chain
    else if word.all (·.isDigit) then parseShortcut head rest
    else .error (.unknownCommand (String.ofList head))

/-- The command of a line. -/
def parse (line : String) : Except ParseError Command := parseChars line.toList

end Line

end ActionTree
