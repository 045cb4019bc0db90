import ActionTree.Engine.Shell
import ActionTree.Json.Printer
import ActionTree.Text.Utf8

/-!
# Conversations

Lines are handled one after the other, up to one that ends the shell or to the last one. Lines that
are given are all there before the first of them is handled. Lines that are typed are read from an
input that the commands of the lines share: what a command takes of it, the shell never sees. So the
input is part of the world, and what the shell has read ahead is its own.

In the program: the loops of the commands `run` (`converse`, `batch`) and `repl` (`talk`,
`interactive`), with the lines that its buffered reader makes of the input (`fetch`).

* `Engine.converse`: the responses to lines that are given.
* `Engine.batch`: what is printed for them, and whether all of them succeeded.
* `Feed`, `fetch`: an input, and the next line in it.
* `Engine.talk`: the responses to lines that are typed.
* `Engine.interactive`: what is printed for them. An interactive shell greets, shows the first menu,
  prompts for every line and says goodbye.
-/

namespace ActionTree

/-- The response to a line, and the cursor before it. -/
structure Answered where
  cursor : Address
  response : Response

/-- What lines of a shell left. -/
structure Conversation (σ : Type) where
  answers : List Answered
  session : Session
  world : σ

namespace Response

/-- A response as it is printed. -/
def printed (r : Response) : String := r.toJson.pretty ++ "\n"

end Response

/-- A signal that never fires. -/
def Signal.silent {σ : Type} : Signal σ := ⟨fun _ => false, id⟩

namespace Engine

variable {σ : Type}

/-- The responses to lines up to the one that ends the shell. The `n`-th moment is that of the
`n`-th line. -/
def converse (e : Engine σ) (signal : Option (Signal σ)) (moments : Nat → Moment) :
    Nat → List String → Session → σ → Conversation σ
  | _, [], s, w => ⟨[], s, w⟩
  | n, line :: rest, s, w =>
    let h := e.handle signal (moments n) line s w
    if h.response.isExit then ⟨[], h.session, h.world⟩
    else
      let c := e.converse signal moments (n + 1) rest h.session h.world
      { c with answers := ⟨s.nav.cursor, h.response⟩ :: c.answers }

/-- What was printed for lines, and whether all of them succeeded. -/
structure Batch where
  text : String
  ok : Bool
  deriving DecidableEq

/-- The outcome of lines that are given. -/
def batch (e : Engine σ) (moments : Nat → Moment) (id : String) (lines : List String) (w : σ) :
    Batch :=
  let c := e.converse none moments 0 lines (e.newSession id) w
  ⟨String.join (c.answers.map (·.response.printed)), c.answers.all (!·.response.isFailure)⟩

/-- What is asked with before a line. -/
def prompt (cursor : Address) : String := cursor.text ++ "> "

/-- What is printed before the first prompt. -/
def greeting (e : Engine σ) (appId : String) (session : Session) : String :=
  "TreeShell (" ++ appId ++ "): " ++ toString e.space.size ++ " nodes\n"
    ++ "Type \x60menu\x60, \x60back\x60, \x60history\x60, a number, "
    ++ "or \x60jump <address> \x7bjson\x7d\x60. \x60exit\x60 quits.\n"
    ++ "Chain steps with \x60->\x60; "
    ++ "reference earlier output with $stepN_result or $last_result.\n\n"
    ++ (Response.menu (e.currentMenu session)).printed

/-- What is printed at the end. -/
def farewell : String := "Goodbye.\n"

end Engine

/-! ## Inputs -/

/-- What successive reads of an input find. A read that finds nothing is an end of the input. -/
abbrev Feed := List (List UInt8)

/-- Bytes without the carriage return at their end. -/
def dropReturn (bs : List UInt8) : List UInt8 :=
  if bs.getLast? = some 13 then bs.dropLast else bs

/-- The first line in bytes and what is behind it. A line ends with a line feed, before which a
carriage return does not count. -/
def cutLine? (bs : List UInt8) : Option (List UInt8 × List UInt8) :=
  if 10 ∈ bs then some (dropReturn (bs.takeWhile (· ≠ 10)), (bs.dropWhile (· ≠ 10)).tail)
  else none

/-- What a reader of lines comes to. -/
structure Fetched where
  /-- The next line; at the end of the input there is none. -/
  line : Option (List UInt8)
  /-- The bytes behind it that were read with it. -/
  held : List UInt8
  feed : Feed
  deriving DecidableEq

namespace Fetched

/-- The input ends: the last line is what is held, if that is anything. -/
def atEnd (held : List UInt8) (feed : Feed) : Fetched :=
  ⟨if held.isEmpty then none else some held, [], feed⟩

/-- The text of the line; one that is not UTF-8 has none. -/
def text? (f : Fetched) : Option String :=
  f.line.bind fun line => (Text.Utf8.decode? line).map String.ofList

end Fetched

/-- The next line. The reader holds what it has read and not handed out, and reads as often as it
takes to find the end of the line. -/
def fetch (held : List UInt8) (feed : Feed) : Fetched :=
  match cutLine? held, feed with
  | some (line, rest), feed => ⟨some line, rest, feed⟩
  | none, [] => .atEnd held []
  | none, bs :: feed => if bs.isEmpty then .atEnd held feed else fetch (held ++ bs) feed

namespace Engine

variable {σ : Type}

/-- The responses to lines that are typed, up to the one that ends the shell or to one that is not
UTF-8. At most `limit` lines are looked at: a shell that has not ended with them has no account, as
commands may give it lines for ever. -/
def talk (e : Engine (σ × Feed)) (moments : Nat → Moment) :
    Nat → Nat → List UInt8 → Session → σ × Feed → Option (Conversation (σ × Feed))
  | 0, _, _, _, _ => none
  | limit + 1, n, held, s, w =>
    let f := fetch held w.2
    match f.text? with
    | none => some ⟨[], s, (w.1, f.feed)⟩
    | some line =>
      let h := e.handle (some .silent) (moments n) line s (w.1, f.feed)
      if h.response.isExit then some ⟨[], h.session, h.world⟩
      else
        (e.talk moments limit (n + 1) f.held h.session h.world).map fun c =>
          { c with answers := ⟨s.nav.cursor, h.response⟩ :: c.answers }

/-- What is printed for lines that are typed, if the shell ends with at most `limit` of them. -/
def interactive (e : Engine (σ × Feed)) (appId : String) (moments : Nat → Moment) (limit : Nat)
    (id : String) (w : σ × Feed) : Option String := do
  let start := e.newSession id
  let c ← e.talk moments limit 0 [] start w
  return e.greeting appId start
    ++ String.join (c.answers.map fun a => prompt a.cursor ++ a.response.printed)
    ++ prompt c.session.nav.cursor ++ farewell

end Engine

end ActionTree
