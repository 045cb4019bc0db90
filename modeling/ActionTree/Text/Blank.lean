/-!
# Blank characters and trimming

`isBlank` is the Unicode property White_Space: 25 code points. Trimming, splitting off a first word
and splitting into words all mean these characters, on lists of characters.

In the program: the character class behind `trim` and `split_whitespace`, and `split_word`
(`splitWord`).

* `trim`: without the blanks at both ends.
* `splitWord`: the first word and the trimmed text behind it.
* `words`: the maximal runs without blanks.
-/

namespace ActionTree.Text

/-- The characters with the Unicode property White_Space. -/
def isBlank (c : Char) : Bool :=
  let n := c.toNat
  (9 ≤ n && n ≤ 13) || n == 0x20 || n == 0x85 || n == 0xA0 || n == 0x1680
    || (0x2000 ≤ n && n ≤ 0x200A) || n == 0x2028 || n == 0x2029 || n == 0x202F || n == 0x205F
    || n == 0x3000

/-- The text without the blanks at its start. -/
def trimStart (cs : List Char) : List Char := cs.dropWhile isBlank

/-- The text without the blanks at its end. -/
def trimEnd (cs : List Char) : List Char := (cs.reverse.dropWhile isBlank).reverse

/-- The text without the blanks at both ends. -/
def trim (cs : List Char) : List Char := trimEnd (trimStart cs)

/-- The first word and the trimmed rest. Both are empty if the text is blank. -/
def splitWord (cs : List Char) : List Char × List Char :=
  let s := trimStart cs
  (s.takeWhile (!isBlank ·), trim (s.dropWhile (!isBlank ·)))

/-- The words of a text: its maximal runs of characters that are not blank. -/
def words (cs : List Char) : List (List Char) :=
  cs.foldr (fun c ws => if isBlank c then [] :: ws else
    match ws with
    | [] => [[c]]
    | w :: ws => (c :: w) :: ws) [[]] |>.filter (! ·.isEmpty)

/-- A string without the blanks at both ends. -/
def trimmed (s : String) : String := String.ofList (trim s.toList)

/-- A string with its ASCII letters in lower case; other characters stay. -/
def lower (cs : List Char) : List Char := cs.map Char.toLower

@[simp] theorem trimStart_nil : trimStart [] = [] := rfl
@[simp] theorem trim_nil : trim [] = [] := rfl

end ActionTree.Text
