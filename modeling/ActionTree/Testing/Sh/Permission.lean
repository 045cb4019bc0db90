import ActionTree.Testing.Sh.Disk

/-!
# Permissions

A mode of permissions is given by octal digits or by letters: who (`u`, `g`, `o`, `a`), how (`+`,
`-`, `=`) and what (`r`, `w`, `x`, `X`, `s`, `t`, or who to copy from), in parts between commas.

* `Disk.modeFrom?`: the mode that a text makes of another one.
-/

namespace ActionTree.Sh.Disk

/-- The bits of those whom letters name, all of them if there are none. -/
def whoBits (who : Bytes) : Nat :=
  let bits (c : Char) : Nat := match c with
    | 'u' => 0o4700
    | 'g' => 0o2070
    | 'o' => 0o1007
    | _ => 0o7777
  who.foldl (fun n c => n ||| bits c) 0

/-- The bits that letters of permissions name, for everybody. -/
def whatBits (isDirectory : Bool) (mode : Nat) (what : Bytes) : Nat :=
  let copy (shift : Nat) : Nat := (mode / Nat.pow 8 shift % 8) * 0o111
  let bits (c : Char) : Nat := match c with
    | 'r' => 0o444
    | 'w' => 0o222
    | 'x' => 0o111
    | 'X' => if isDirectory || mode &&& 0o111 ≠ 0 then 0o111 else 0
    | 's' => 0o6000
    | 't' => 0o1000
    | 'u' => copy 2
    | 'g' => copy 1
    | _ => copy 0
  what.foldl (fun n c => n ||| bits c) 0

/-- A part of a mode behind who it is about: each sign with the letters behind it. -/
def applySigns (mask : Nat) (isDirectory : Bool) (who : Bytes) : Nat → Nat → Bytes → Option Nat
  | 0, _, _ => none
  | n + 1, mode, cs =>
    match cs with
    | [] => some mode
    | sign :: rest =>
      if !(['+', '-', '='].contains sign) then none
      else
        let what := rest.takeWhile ("rwxXstugo".toList.contains ·)
        let copies := what.any ("ugo".toList.contains ·)
        if copies && 1 < what.length then none
        else
          let limit := if who.isEmpty then 0o7777 - mask else whoBits who
          let bits := whatBits isDirectory mode what &&& limit
          let mode := match sign with
            | '+' => mode ||| bits
            | '-' => mode - (mode &&& bits)
            | _ =>
              let cleared := if who.isEmpty then 0o7777 else limit
              let cleared := if isDirectory then cleared &&& 0o1777 else cleared
              (mode - (mode &&& cleared)) ||| bits
          applySigns mask isDirectory who n mode (rest.drop what.length)

/-- The mode that a text makes of another one, given the permissions that are not given where nobody
is named. -/
def modeFrom? (mask : Nat) (isDirectory : Bool) (mode : Nat) (cs : Bytes) : Option Nat :=
  let isOctal (c : Char) : Bool := '0' ≤ c && c ≤ '7'
  if cs.isEmpty then none
  else if cs.all isOctal then
    let n := cs.foldl (fun n c => 8 * n + (c.toNat - '0'.toNat)) 0
    if n ≤ 0o7777 then some n else none
  else
    (splitAt ',' cs).foldlM (fun mode part =>
      let who := part.takeWhile ("ugoa".toList.contains ·)
      let signs := part.drop who.length
      if signs.isEmpty then none
      else applySigns mask isDirectory who (part.length + 1) mode signs) mode

end ActionTree.Sh.Disk
