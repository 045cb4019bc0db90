import ActionTree.Testing.Sh.Expansion

/-!
# Redirections

* `Redirection.all`: carries out redirections.
* `Redirection.under`: a computation under redirections.
-/

namespace ActionTree.Sh.Redirection

/-- What is said of trouble with a path: anything missing has the same name. -/
def reason (missing : String) : Trouble → Bytes
  | .absent | .notDirectory => missing.toList
  | t => t.message

/-- Leads a descriptor to where another one leads, if that is open. -/
def copy (descriptor other : Nat) : Run Bool := do
  match ← Run.channel? other with
  | some c => do
    Run.connect descriptor (some c)
    return true
  | none => return false

/-- Opens a node, or a descriptor that a device stands for. The result is what is wrong with it. -/
def openNode (descriptor n : Nat) (readable writable append : Bool) : Run (Option Trouble) := do
  match (← get).disk.kind n with
  | .device (.descriptor k) => return if ← copy descriptor k then none else some .noDevice
  | .device .terminal => return some .noDevice
  | _ => do
    let c ← Run.openStream ⟨.node n 0 none, readable, writable, append⟩
    Run.connect descriptor (some c)
    return none

/-- Redirects a descriptor to a text that is read. -/
def readText (descriptor : Nat) (text : Bytes) : Run Unit := do
  let c ← Run.openStream ⟨.text text 0 false, true, false, false⟩
  Run.connect descriptor (some c)

/-- Redirects a descriptor to a file that is read. The result is what is wrong with it. -/
def readFrom (descriptor : Nat) (target : Bytes) : Run (Option Bytes) := do
  let m ← get
  let found ← match m.disk.find m.process.directory target with
    | .ok n => openNode descriptor n true false false
    | .error t => pure (some t)
  return found.map fun t =>
    "cannot open ".toList ++ target ++ ": ".toList ++ reason "No such file" t

/-- Redirects a descriptor to a file that is written, and perhaps read. A file that is there loses
its text, unless more is added to it, it is read too, or the options say that it is kept. The result
is what is wrong with it. -/
def writeTo (descriptor : Nat) (readable append forced : Bool) (target : Bytes) :
    Run (Option Bytes) := do
  let m ← get
  let found ← match m.disk.place true m.process.directory target with
    | .error t => pure (some t)
    | .ok place =>
      match place.node with
      | none => do
        let node : Node := ⟨.file .empty, 0o666 - (0o666 &&& m.process.mask), m.process.clock⟩
        let (disk, n) := m.disk.create place.directory place.name node
        set { m with disk := disk }
        openNode descriptor n readable true append
      | some n =>
        match m.disk.kind n with
        | .directory _ => pure (some Trouble.isDirectory)
        | .file _ =>
          if m.process.has 'C' && !forced && !append && !readable then pure (some .present)
          else do
            if !append && !readable then
              let node := m.disk.node n
              let node : Node := ⟨.file .empty, node.mode, m.process.clock⟩
              set { m with disk := m.disk.setNode n node }
            openNode descriptor n readable true append
        | _ => openNode descriptor n readable true append
  return found.map fun t =>
    "cannot create ".toList ++ target ++ ": ".toList ++ reason "Directory nonexistent" t

/-- Carries out a redirection. The result is what is wrong with it; a copy of what is no descriptor
ends the process. -/
def single (line descriptor : Nat) (direction : Direction) (target : Bytes) :
    Run (Option Bytes) := do
  match direction with
  | .fromFile => readFrom descriptor target
  | .here _ => do
    readText descriptor target
    return none
  | .toFile append forced => writeTo descriptor false append forced target
  | .both => writeTo descriptor true false true target
  | .copy =>
    if target = ['-'] then do
      Run.connect descriptor none
      return none
    else match Text.natural? 10 target with
      | none => Run.fail line "Syntax error: Bad fd number".toList
      | some n =>
        if ← copy descriptor n then return none
        else return some (decimal n ++ ": Bad file descriptor".toList)

/-- Carries out redirections up to the first that fails, and says whether none does. -/
def all (run : Command → Run Unit) (line : Nat) : List Redirect → Run Bool
  | [] => return true
  | .mk descriptor direction w :: rest => do
    let target ← match direction with
      | .here _ => do pure (Expansion.joinAtoms (← Expansion.atoms run line false w))
      | _ => Expansion.text run line w
    match ← single line descriptor direction target with
    | none => all run line rest
    | some what => do
      Run.complain line what
      Run.setStatus 2
      return false

/-- A computation after which the redirected descriptors are what they were. -/
def restoring (rs : List Redirect) (x : Run Unit) : Run Unit :=
  if rs.isEmpty then x
  else
    let descriptors := rs.map fun | .mk descriptor _ _ => descriptor
    Run.restoring (fun p q =>
      { q with descriptors :=
          p.descriptors.filter (fun d => descriptors.contains d.1)
            ++ q.descriptors.filter fun d => !descriptors.contains d.1 }) x

/-- A computation under redirections, which does not start if one of them fails. -/
def under (run : Command → Run Unit) (line : Nat) (rs : List Redirect) (x : Run Unit) : Run Unit :=
  if rs.isEmpty then x
  else restoring rs do
    if ← all run line rs then x

end ActionTree.Sh.Redirection
