import ActionTree.Program.Basic
import Std.Time

/-!
# The command line

Reads arguments, environment, settings and input, and prints what the program makes of them. No
shell is started and there is no transport for HTTP, so commands and completions fail.
-/

namespace ActionTree.Main

open Program

/-- What lies outside of the program. -/
def around {σ : Type} : Surroundings σ where
  shell := ⟨fun _ _ w => (.notStarted "no shell", w), fun _ _ => none⟩
  http := .constant (.error "no transport")

/-- What is found at a path. -/
def sourceAt (path : String) : IO Settings.Source := do
  try return .text (← IO.FS.readFile path)
  catch
    | .noFileOrDirectory .. => return .absent
    | e => return .unreadable (toString e)

/-- The time. -/
def now : IO Instant := do
  let t := (← Std.Time.Timestamp.now).toNanosecondsSinceUnixEpoch.toInt
  return .ofEpoch (t / 1000000000) (t % 1000000000).toNat

/-- A moment with fresh ids, made from random bytes. -/
def freshMoment : IO Moment := do
  let seed := (← IO.getRandomBytes 12).toList
  let counted (n : Nat) : List UInt8 := [24, 16, 8, 0].map fun k => UInt8.ofNat (n >>> k)
  return ⟨← now, fun n => uuid (seed ++ counted n)⟩

/-- An id for a session. -/
def freshId : IO String := do
  return uuid (← IO.getRandomBytes 16).toList

/-- Prints a text at once. -/
def say (text : String) : IO Unit := do
  let out ← IO.getStdout
  out.putStr text
  out.flush

/-- The next line of the input; there is none at its end or if it is not UTF-8. -/
def readLine : IO (Option String) := do
  try
    let text ← (← IO.getStdin).getLine
    return (fetch [] [Text.Utf8.encode text.toList]).text?
  catch _ => return none

/-- Lines that are typed, one after the other. -/
partial def talk (e : Engine Unit) (session : Session) : IO Unit := do
  say (Engine.prompt session.nav.cursor)
  match ← readLine with
  | none => say Engine.farewell
  | some line =>
    let h := e.handle (some .silent) (← freshMoment) line session ()
    if h.response.isExit then say Engine.farewell
    else
      say h.response.printed
      talk e h.session

/-- A task under settings from a path. -/
def perform (path : String) (s : Settings) (t : Task) :
    IO (Except SettingsError (Option Report)) := do
  match t with
  | .interactive =>
    match s.makeEngine around with
    | .error e => return .error e
    | .ok e =>
      let session := e.newSession (← freshId)
      say (e.greeting s.tree.appId session)
      talk e session
      return .ok (some ⟨"", true⟩)
  | t =>
    let m ← freshMoment
    let o : Occasion := ⟨← freshId, fun n => ⟨m.time, fun k => m.id (4096 * n + k)⟩, 0⟩
    return report around ((), []) o path s t

/-- The environment, as far as the program looks at it. -/
def environment : IO (String → Option String) := do
  let found ← environmentNames.mapM fun v => return (v, ← IO.getEnv v)
  return fun name => (found.lookup name).join

/-- The exit code of the program, which prints its output. -/
def run (args : List String) : IO UInt32 := do
  let lookup ← environment
  match Request.ofArguments (lookup pathVariable) args with
  | .version => say versionText; return 0
  | .help => say helpText; return 0
  | .misuse => IO.eprint helpText; return 2
  | .task t given =>
    let path := given.getD (defaultPath lookup)
    let source ← sourceAt path
    let result ← match Settings.loadIn lookup path source with
      | .error e => pure (.error e)
      | .ok s => perform path s t
    if let .error e := result then IO.eprintln e.message
    let some exit := Exit.ofReport result | return 1
    say exit.text
    return UInt32.ofNat exit.code

end ActionTree.Main

/-- The program. -/
def main (args : List String) : IO UInt32 := ActionTree.Main.run args
