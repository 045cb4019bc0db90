import ActionTree.Program.Conversation
import ActionTree.Proofs.Text.Blank
import ActionTree.Proofs.Text.Utf8

/-!
# Lines in an input

The bytes of an input come in pieces, one with each read. A reader of lines puts them together
again: what it holds and what is still to be read are always the bytes behind the lines that it has
handed out. So the lines are those in the bytes, in whatever pieces they come, as long as nobody
else reads from the input.

* `typedBytes`: the bytes of lines that are typed.
* `fetch_of_line`: the next line in bytes.
* `fetch_typedBytes`: the next one of lines that were typed. It has lost a carriage return at its
  end, which `trim_withoutReturn` shows to be blank to all readers of a line.
-/

namespace ActionTree

open Text

/-! ## Bytes -/

/-- The bytes up to the first line feed are the first line. -/
theorem cutLine?_of_line {l : List UInt8} (h : 10 ∉ l) (rest : List UInt8) :
    cutLine? (l ++ 10 :: rest) = some (dropReturn l, rest) := by
  have hl : ∀ b ∈ l, decide (b ≠ 10) = true := by
    intro b hb
    simpa using ne_of_mem_of_not_mem hb h
  have hdrop : (l ++ 10 :: rest).dropWhile (· ≠ 10) = 10 :: rest := by
    rw [List.dropWhile_append_of_pos hl, List.dropWhile_cons_of_neg (by simp)]
  have htake : (l ++ 10 :: rest).takeWhile (· ≠ 10) = l := by
    rw [List.takeWhile_append_of_pos hl, List.takeWhile_cons_of_neg (by simp), List.append_nil]
  rw [cutLine?, if_pos (by simp), hdrop, htake, List.tail_cons]

/-- What is behind the first line does not change it. -/
theorem cutLine?_append {bs line rest : List UInt8} (h : cutLine? bs = some (line, rest))
    (more : List UInt8) : cutLine? (bs ++ more) = some (line, rest ++ more) := by
  have hfeed : 10 ∈ bs := by
    by_contra hnone
    rw [cutLine?, if_neg hnone] at h
    cases h
  obtain ⟨l, behind, rfl, hl⟩ := List.eq_append_cons_of_mem hfeed
  rw [cutLine?_of_line hl] at h
  cases h
  rw [List.append_assoc, List.cons_append, cutLine?_of_line hl]

/-- A line that is held whole is next, and nothing is read. -/
theorem fetch_of_cut {held line rest : List UInt8} (h : cutLine? held = some (line, rest))
    (feed : Feed) : fetch held feed = ⟨some line, rest, feed⟩ := by
  unfold fetch
  rw [h]

/-- As long as no line is held whole, the reader reads. -/
theorem fetch_cons {held bs : List UInt8} (h : cutLine? held = none) (hbs : bs ≠ [])
    (feed : Feed) : fetch held (bs :: feed) = fetch (held ++ bs) feed := by
  rw [fetch.eq_def, h]
  exact if_neg (by simpa using hbs)

/-- The next line is the first one in the bytes that are held and those still to be read. Behind it
the rest of them is held or still to be read. -/
theorem fetch_of_line {held l rest : List UInt8} {feed : Feed} (hl : 10 ∉ l) (hfeed : [] ∉ feed)
    (hbytes : held ++ feed.flatten = l ++ 10 :: rest) :
    ∃ held' feed', fetch held feed = ⟨some (dropReturn l), held', feed'⟩ ∧ [] ∉ feed' ∧
      held' ++ feed'.flatten = rest := by
  -- Every read takes a piece of the input and adds it to what is held.
  induction feed generalizing held with
  | nil =>
    rw [List.flatten_nil, List.append_nil] at hbytes
    rw [hbytes]
    exact ⟨rest, [], fetch_of_cut (cutLine?_of_line hl rest) [], hfeed, List.append_nil rest⟩
  | cons bs feed ih =>
    obtain ⟨hbs, hrest⟩ := not_or.1 (mt List.mem_cons.2 hfeed)
    cases hcut : cutLine? held with
    | some x =>
      obtain ⟨line, behind⟩ := x
      have hwhole := cutLine?_append hcut (bs :: feed).flatten
      rw [hbytes, cutLine?_of_line hl] at hwhole
      cases hwhole
      exact ⟨behind, bs :: feed, fetch_of_cut hcut _, hfeed, rfl⟩
    | none =>
      rw [List.flatten_cons, ← List.append_assoc] at hbytes
      obtain ⟨held', feed', hfetch, hnonempty, hbehind⟩ := ih hrest hbytes
      rw [fetch_cons hcut (Ne.symm hbs)]
      exact ⟨held', feed', hfetch, hnonempty, hbehind⟩

/-- Where nothing is held and nothing is to be read, the input ends. -/
theorem fetch_of_nil {held : List UInt8} {feed : Feed} (hfeed : [] ∉ feed)
    (hbytes : held ++ feed.flatten = []) : fetch held feed = ⟨none, [], []⟩ := by
  obtain ⟨rfl, hnone⟩ := List.append_eq_nil_iff.1 hbytes
  cases feed with
  | nil => rfl
  | cons bs feed =>
    rw [List.flatten_cons, List.append_eq_nil_iff] at hnone
    exact absurd (hnone.1 ▸ List.mem_cons_self) hfeed

/-! ## Texts -/

/-- The bytes of lines with a line feed behind each. -/
def typedBytes (lines : List String) : List UInt8 :=
  lines.flatMap fun line => Utf8.encode line.toList ++ [10]

/-- A line without the carriage return at its end. -/
def withoutReturn (line : String) : String :=
  if line.toList.getLast? = some '\r' then .ofList line.toList.dropLast else line

/-- A carriage return is the last character of a line if and only if it is the last byte. -/
theorem dropReturn_encode (line : String) :
    dropReturn (Utf8.encode line.toList) = Utf8.encode (withoutReturn line).toList := by
  unfold dropReturn withoutReturn
  by_cases hline : line.toList.getLast? = some '\r'
  · obtain ⟨cs, hcs⟩ := List.getLast?_eq_some_iff.1 hline
    have hbytes : Utf8.encode line.toList = Utf8.encode cs ++ [13] := by
      rw [hcs, Utf8.encode_append]
      rfl
    rw [if_pos hline, if_pos (by rw [hbytes, List.getLast?_concat]), hbytes, List.dropLast_concat,
      String.toList_ofList, hcs, List.dropLast_concat]
  · rw [if_neg hline, if_neg]
    intro hbyte
    exact hline (Utf8.getLast?_of_encode (by decide) hbyte)

/-- Of lines that were typed the first one is next, and then the others. -/
theorem fetch_typedBytes {line : String} {lines : List String} {held : List UInt8} {feed : Feed}
    (hline : '\n' ∉ line.toList) (hfeed : [] ∉ feed)
    (hbytes : held ++ feed.flatten = typedBytes (line :: lines)) :
    let f := fetch held feed
    f.text? = some (withoutReturn line) ∧ [] ∉ f.feed ∧
      f.held ++ f.feed.flatten = typedBytes lines := by
  -- No byte of another character is a line feed.
  have hl : (10 : UInt8) ∉ Utf8.encode line.toList := fun hmem =>
    hline (Utf8.mem_of_mem_encode (by decide) hmem)
  rw [typedBytes, List.flatMap_cons, List.append_assoc, List.singleton_append, ← typedBytes]
    at hbytes
  obtain ⟨held', feed', hfetch, hnonempty, hbehind⟩ := fetch_of_line hl hfeed hbytes
  rw [hfetch]
  refine ⟨?_, hnonempty, hbehind⟩
  simp only [Fetched.text?, dropReturn_encode, Option.bind_some, Utf8.decode?_encode,
    Option.map_some, String.ofList_toList]

/-- A carriage return is blank. -/
theorem trim_withoutReturn (line : String) :
    trim (withoutReturn line).toList = trim line.toList := by
  unfold withoutReturn
  split
  · rename_i hline
    obtain ⟨cs, hcs⟩ := List.getLast?_eq_some_iff.1 hline
    rw [String.toList_ofList, hcs, List.dropLast_concat,
      trim_append_right (by simp [Blank, isBlank])]
  · rfl

end ActionTree
