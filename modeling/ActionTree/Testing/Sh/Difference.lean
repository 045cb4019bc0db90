/-!
# What differs between two texts

Two texts are rows of lines, each line given by a number: equal lines have equal numbers. A shortest
way from one text to the other is found by a search from both ends that meets in the middle; lines
that tell nothing are left out of it. Then each run of lines that only one text has is moved as far
down as it goes, or to where the other text differs too.

* `Texts.middle`: where the searches from both ends meet.
* `Worth.ofLines`: which lines the search looks at.
* `Texts.differing`: the lines that only one of the texts has.
* `Texts.changes`: the runs of such lines.
-/

namespace ActionTree.Sh.Difference

/-- Two texts by the numbers of their lines. -/
structure Texts where
  left : Array Nat
  right : Array Nat

/-- The lines of both texts from some places on up to others. -/
structure Part where
  left : Int
  leftEnd : Int
  right : Int
  rightEnd : Int

/-- For each line of both texts, whether the other text does not have it. -/
structure Marks where
  left : Array Bool
  right : Array Bool

/-- A run of lines that only one text has, and what is in its place in the other one: how many lines
are before it, and how many lines it has, in both texts. -/
structure Change where
  left : Nat
  right : Nat
  removed : Nat
  added : Nat

/-! ## The search -/

/-- How far a search came on each diagonal, which is where the difference of the places in both
texts is the same, and the diagonals that it has reached. -/
structure Front where
  /-- The place in the first text for each diagonal, the diagonals counted from `origin` on. -/
  ends : Array Int
  origin : Int
  least : Int
  greatest : Int

namespace Front

/-- How far the search came on a diagonal. -/
def get (f : Front) (d : Int) : Int := f.ends.getD (d - f.origin).toNat 0

/-- The search that came so far on a diagonal. -/
def set (f : Front) (d x : Int) : Front :=
  { f with ends := f.ends.setIfInBounds (d - f.origin).toNat x }

/-- The search with one more diagonal on both sides within bounds, where it did not come anywhere
yet. -/
def widened (f : Front) (least greatest unreached : Int) : Front :=
  let f :=
    if least < f.least then { f.set (f.least - 2) unreached with least := f.least - 1 }
    else { f with least := f.least + 1 }
  if f.greatest < greatest then
    { f.set (f.greatest + 2) unreached with greatest := f.greatest + 1 }
  else { f with greatest := f.greatest - 1 }

/-- Does the search know a diagonal? -/
def covers (f : Front) (d : Int) : Bool := f.least ≤ d && d ≤ f.greatest

end Front

namespace Texts

/-- Are lines of both texts equal? -/
def agrees (t : Texts) (x y : Int) : Bool := t.left[x.toNat]? = t.right[y.toNat]?

/-- The place behind equal lines of a part from a place on, on a diagonal. -/
def slideDown (t : Texts) (w : Part) (d : Int) : Nat → Int → Int
  | 0, x => x
  | n + 1, x =>
    if x < w.leftEnd && x - d < w.rightEnd && t.agrees x (x - d) then t.slideDown w d n (x + 1)
    else x

/-- The place before equal lines of a part that end at a place, on a diagonal. -/
def slideUp (t : Texts) (w : Part) (d : Int) : Nat → Int → Int
  | 0, x => x
  | n + 1, x =>
    if w.left < x && w.right < x - d && t.agrees (x - 1) (x - d - 1) then t.slideUp w d n (x - 1)
    else x

/-- How many steps there are at most in a part. -/
def bound (w : Part) : Nat := (w.leftEnd - w.left + (w.rightEnd - w.right)).toNat + 1

/-- A step from the start on so many diagonals downwards from one. If the search from the end is
met, the place is said. -/
def stepDown (t : Texts) (w : Part) (back : Front) (odd : Bool) :
    Nat → Int → Front → Front × Option (Int × Int)
  | 0, _, f => (f, none)
  | n + 1, d, f =>
    let below := f.get (d - 1)
    let above := f.get (d + 1)
    let x := t.slideDown w d (bound w) (if below < above then above else below + 1)
    let f := f.set d x
    if odd && back.covers d && back.get d ≤ x then (f, some (x, x - d))
    else t.stepDown w back odd n (d - 2) f

/-- A step from the end on so many diagonals downwards from one. If the search from the start is
met, the place is said. -/
def stepUp (t : Texts) (w : Part) (front : Front) (odd : Bool) :
    Nat → Int → Front → Front × Option (Int × Int)
  | 0, _, f => (f, none)
  | n + 1, d, f =>
    let below := f.get (d - 1)
    let above := f.get (d + 1)
    let x := t.slideUp w d (bound w) (if below < above then below else above - 1)
    let f := f.set d x
    if !odd && front.covers d && x ≤ front.get d then (f, some (x, x - d))
    else t.stepUp w front odd n (d - 2) f

/-- How many diagonals a step goes along. -/
def diagonals (f : Front) : Nat := ((f.greatest - f.least) / 2 + 1).toNat

/-- So many steps at most from both ends in turn. -/
def search (t : Texts) (w : Part) (odd : Bool) : Nat → Front → Front → Int × Int
  | 0, _, _ => (w.left, w.right)
  | n + 1, f, b =>
    let least := w.left - w.rightEnd
    let greatest := w.leftEnd - w.right
    let f := f.widened least greatest (-1)
    match t.stepDown w b odd (diagonals f) f.greatest f with
    | (_, some found) => found
    | (f, none) =>
      let b := b.widened least greatest (w.leftEnd + w.rightEnd + 1)
      match t.stepUp w f odd (diagonals b) b.greatest b with
      | (_, some found) => found
      | (b, none) => t.search w odd n f b

/-- Where the searches from both ends of a part meet. -/
def middle (t : Texts) (w : Part) : Int × Int :=
  let d := w.left - w.right
  let e := w.leftEnd - w.rightEnd
  let origin := w.left - w.rightEnd - 1
  let ends : Array Int := Array.replicate (bound w + 3) 0
  let f : Front := ⟨ends, origin, d, d⟩
  let b : Front := ⟨ends, origin, e, e⟩
  t.search w ((d - e) % 2 = 1) (bound w) (f.set d w.left) (b.set e w.leftEnd)

/-- A part without the equal lines at its start and at its end. -/
def core (t : Texts) (w : Part) : Part :=
  let start := t.slideDown w (w.left - w.right) (bound w) w.left
  let w := { w with left := start, right := w.right + (start - w.left) }
  let stop := t.slideUp w (w.leftEnd - w.rightEnd) (bound w) w.leftEnd
  { w with leftEnd := stop, rightEnd := w.rightEnd - (w.leftEnd - stop) }

/-- The lines of a part that only one text has, and marks that are there already. -/
def compare (t : Texts) : Nat → Part → Marks → Marks
  | 0, _, m => m
  | n + 1, w, m =>
    let w := t.core w
    let mark (a : Array Bool) (i j : Int) : Array Bool :=
      (List.range (j - i).toNat).foldl (fun a k => a.setIfInBounds (i.toNat + k) true) a
    if w.left = w.leftEnd then { m with right := mark m.right w.right w.rightEnd }
    else if w.right = w.rightEnd then { m with left := mark m.left w.left w.leftEnd }
    else
      let (x, y) := t.middle w
      let m := t.compare n { w with leftEnd := x, rightEnd := y } m
      t.compare n { w with left := x, right := y } m

end Texts

/-! ## Lines that tell nothing -/

/-- What a line is worth to the search. -/
inductive Worth where
  | kept
  /-- The other text has many lines like it. -/
  | doubtful
  /-- The other text has no line like it. -/
  | alone
  deriving DecidableEq

namespace Worth

/-- About the square root of a number, as a power of two. -/
def root (n : Nat) : Nat := Nat.pow 2 (Nat.log2 (max n 1) / 2)

/-- A row of lines in which doubtful ones are kept from the start on, up to three lines in a row
that are alone, or to one of them behind eight lines. -/
def openedFrom : Nat → Nat → List Worth → List Worth
  | _, _, [] => []
  | i, row, w :: rest =>
    match w with
    | .alone =>
      if 8 ≤ i || row = 2 then .alone :: rest else .alone :: openedFrom (i + 1) (row + 1) rest
    | _ => .kept :: openedFrom (i + 1) 0 rest

/-- A row in which doubtful lines are kept where so many of them follow one another. -/
def withoutGroups (least : Nat) : Nat → List Worth → List Worth
  | 0, ws => ws
  | _, [] => []
  | n + 1, w :: rest =>
    if w = .doubtful then
      let group := (w :: rest).takeWhile (· = .doubtful)
      let after := rest.drop (group.length - 1)
      (if least ≤ group.length then group.map fun _ => .kept else group)
        ++ withoutGroups least n after
    else w :: withoutGroups least n rest

/-- A row that starts and ends with lines that are alone: its doubtful lines are left out with them,
unless they are many. -/
def settled (row : List Worth) : List Worth :=
  let keep (w : Worth) : Worth := if w = .doubtful then .kept else w
  if row.length < 4 * row.count .doubtful then row.map keep
  else
    let least := root (row.length / 4) + 1
    let row := withoutGroups least (row.length + 1) row
    (openedFrom 0 0 (openedFrom 0 0 row).reverse).reverse

/-- The lines of a text, of which doubtful ones are left out only among lines that are alone. -/
def settleAll : Nat → List Worth → List Worth
  | 0, ws => ws
  | _, [] => []
  | n + 1, w :: rest =>
    if w = .alone then
      let run := (w :: rest).takeWhile (· ≠ .kept)
      let ends := (run.reverse.takeWhile (· = .doubtful)).length
      settled (run.take (run.length - ends)) ++ List.replicate ends .kept
        ++ settleAll n (rest.drop (run.length - 1))
    else .kept :: settleAll n rest

/-- How many lines are many for a text of some length. -/
def many (n : Nat) : Nat := 5 * root (n / 64)

/-- What the lines of one text are worth beside another one. -/
def ofLines (own other : Array Nat) : List Worth :=
  let greatest := (own ++ other).foldl max 0
  let counts := other.foldl (fun (a : Array Nat) k => a.modify k (· + 1))
    (Array.replicate (greatest + 1) 0)
  let worth (k : Nat) : Worth :=
    let n := counts.getD k 0
    if n = 0 then .alone else if many own.size < n then .doubtful else .kept
  settleAll (own.size + 1) (own.toList.map worth)

/-- The places of the lines of one text that the search looks at. -/
def places (own other : Array Nat) : Array Nat :=
  (((ofLines own other).zipIdx.filter fun w => w.1 = .kept).map (·.2)).toArray

end Worth

/-- The lines that only one of the texts has, apart from those that both have somewhere else. -/
def Texts.differing (t : Texts) : Marks :=
  let lefts := Worth.places t.left t.right
  let rights := Worth.places t.right t.left
  let rest : Texts := ⟨lefts.map (t.left.getD · 0), rights.map (t.right.getD · 0)⟩
  let whole : Part := ⟨0, rest.left.size, 0, rest.right.size⟩
  let none (n : Nat) : Array Bool := Array.replicate n false
  let m := rest.compare (Texts.bound whole) whole ⟨none rest.left.size, none rest.right.size⟩
  let spread (n : Nat) (places : Array Nat) (marks : Array Bool) : Array Bool :=
    (places.zip marks).foldl (fun a p => a.setIfInBounds p.1 p.2) (Array.replicate n true)
  ⟨spread t.left.size lefts m.left, spread t.right.size rights m.right⟩

/-! ## Moving runs -/

/-- A run of marked lines in one text while it is moved: `start` and `stop` are where it starts and
ends, and `across` is the place in the other text. -/
structure Run where
  own : Array Bool
  other : Array Bool
  start : Int
  stop : Int
  across : Int
  /-- The last end of the run at which the other text has a run too. -/
  meeting : Option Int

namespace Run

/-- Is there a mark at a place? -/
def marked (a : Array Bool) (i : Int) : Bool := 0 ≤ i && a.getD i.toNat false

/-- The first place from one on without a mark. -/
def pastMarks (a : Array Bool) : Nat → Int → Int
  | 0, i => i
  | n + 1, i => if marked a i then pastMarks a n (i + 1) else i

/-- The last place up to one without a mark before it. -/
def beforeMarks (a : Array Bool) : Nat → Int → Int
  | 0, i => i
  | n + 1, i => if marked a (i - 1) then beforeMarks a n (i - 1) else i

/-- The last place before one without a mark. -/
def lastPlain (a : Array Bool) (i : Int) : Int := beforeMarks a a.size i - 1

/-- The run with a mark at a place, or without one. -/
def mark (r : Run) (i : Int) (b : Bool) : Run := { r with own := r.own.setIfInBounds i.toNat b }

/-- The run a line further up. -/
def raised (r : Run) : Run :=
  let r := { (r.mark (r.start - 1) true).mark (r.stop - 1) false with
    start := r.start - 1, stop := r.stop - 1 }
  { r with across := lastPlain r.other r.across }

/-- The run moved up as long as the line before it is like its last one. -/
def moveUp (lines : Array Nat) : Nat → Run → Run
  | 0, r => r
  | n + 1, r =>
    if 0 < r.start && lines[(r.start - 1).toNat]? = lines[(r.stop - 1).toNat]? then
      let r := r.raised
      moveUp lines n { r with start := beforeMarks r.own r.own.size r.start }
    else r

/-- The run moved down as long as the line behind it is like its first one. -/
def moveDown (lines : Array Nat) : Nat → Run → Run
  | 0, r => r
  | n + 1, r =>
    if r.stop < lines.size && lines[r.start.toNat]? = lines[r.stop.toNat]? then
      let r := { (r.mark r.start false).mark r.stop true with
        start := r.start + 1, stop := r.stop + 1 }
      let stop := pastMarks r.own r.own.size r.stop
      let across := pastMarks r.other r.other.size (r.across + 1)
      let meets := r.across + 1 < across
      moveDown lines n { r with
        stop := stop, across := across, meeting := if meets then some stop else r.meeting }
    else r

/-- The run moved up and down until it does not grow any more by runs that it meets. -/
def settled (lines : Array Nat) : Nat → Run → Run
  | 0, r => r
  | n + 1, r =>
    let length := r.stop - r.start
    let r := moveUp lines (lines.size + 1) r
    let r := { r with meeting := if marked r.other (r.across - 1) then some r.stop else none }
    let r := moveDown lines (lines.size + 1) r
    if r.stop - r.start = length then r else settled lines n r

/-- The run moved up to where the other text has a run too, if there is such a place. -/
def aligned : Nat → Run → Run
  | 0, r => r
  | n + 1, r =>
    match r.meeting with
    | some i => if i < r.stop then aligned n r.raised else r
    | none => r

/-- All runs from places in both texts on, moved. -/
def moveAll (lines : Array Nat) : Nat → Run → Array Bool
  | 0, r => r.own
  | n + 1, r =>
    if (lines.size : Int) ≤ r.stop then r.own
    else if !marked r.own r.stop then
      let across := pastMarks r.other r.other.size r.across + 1
      moveAll lines n { r with stop := r.stop + 1, across := across }
    else
      let r := { r with
        start := r.stop, stop := pastMarks r.own r.own.size r.stop,
        across := pastMarks r.other r.other.size r.across }
      moveAll lines n (aligned (lines.size + 1) (settled lines (lines.size + 1) r))

end Run

/-- The marks with all runs moved, first in one text and then in the other. -/
def Marks.moved (t : Texts) (m : Marks) : Marks :=
  let steps (lines : Array Nat) : Nat := 2 * lines.size + 2
  let left := Run.moveAll t.left (steps t.left) ⟨m.left, m.right, 0, 0, 0, none⟩
  let right := Run.moveAll t.right (steps t.right) ⟨m.right, left, 0, 0, 0, none⟩
  ⟨left, right⟩

/-! ## Changes -/

/-- The changes from places in both texts on, behind changes in reverse. -/
def Marks.changesFrom (m : Marks) : Nat → Nat → Nat → List Change → List Change
  | 0, _, _, done => done.reverse
  | n + 1, i, j, done =>
    if m.left.size ≤ i && m.right.size ≤ j then done.reverse
    else
      let removed := (Run.pastMarks m.left m.left.size i - i).toNat
      let added := (Run.pastMarks m.right m.right.size j - j).toNat
      if removed = 0 && added = 0 then m.changesFrom n (i + 1) (j + 1) done
      else m.changesFrom n (i + removed) (j + added) (⟨i, j, removed, added⟩ :: done)

/-- What differs between two texts behind so many lines that both have. -/
def Texts.changes (t : Texts) (before : Nat) : List Change :=
  let m := t.differing.moved t
  let found := m.changesFrom (t.left.size + t.right.size + 1) 0 0 []
  found.map fun c => { c with left := c.left + before, right := c.right + before }

end ActionTree.Sh.Difference
