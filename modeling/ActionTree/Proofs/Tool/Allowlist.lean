import ActionTree.Proofs.Text.Blank
import ActionTree.Tool.Command

/-!
# Commands behind an allowlist

With a list of allowed commands, what is started has no control character of the shell in it, and
its first word is on the list. A first word ends at any blank of Unicode, but a shell parts words at
spaces and tabs only. So the word that the shell runs is on the list whenever there is no other
blank in it; a command with another blank there is started although its word may be on no list.

* `CommandTool.commandWord`: the word that a shell runs.
* `CommandTool.started`: the commands that a shell is given.
* `CommandTool.firstWord_eq_commandWord_iff`: the two words are one if no blank is in the second.
* `CommandTool.allowlist_binds_shell_iff`: for which commands the list binds the shell.
-/

namespace ActionTree

namespace CommandTool

open Text

/-! ## Words of a shell -/

/-- Words of a shell are parted by spaces and tabs. -/
def parts (c : Char) : Bool := c == ' ' || c == '\t'

/-- The word that a shell runs: what is behind leading spaces and tabs, up to the next of them. -/
def commandWord (command : String) : String :=
  String.ofList ((command.toList.dropWhile parts).takeWhile (!parts ·))

theorem isBlank_of_parts {c : Char} (h : parts c = true) : isBlank c = true := by
  simp only [parts, Bool.or_eq_true, beq_iff_eq] at h
  rcases h with rfl | rfl <;> rfl

/-- A command is spaces and tabs, its word, and what a space or a tab starts. -/
theorem exists_commandWord (command : String) :
    ∃ ws tail, Blank ws ∧ EndsWord tail ∧
      command.toList = ws ++ (commandWord command).toList ++ tail ∧
      ((commandWord command).toList = [] → tail = []) := by
  generalize hcs : command.toList.dropWhile parts = cs
  have hword : (commandWord command).toList = cs.takeWhile (!parts ·) := by
    rw [commandWord, hcs, String.toList_ofList]
  refine ⟨command.toList.takeWhile parts, cs.dropWhile (!parts ·), ?_, ?_, ?_, ?_⟩
  · exact fun c hc => isBlank_of_parts (List.mem_takeWhile_imp hc)
  · intro c hc
    have hnot := List.head?_dropWhile_not (!parts ·) cs
    rw [hc] at hnot
    exact isBlank_of_parts (by simpa using hnot)
  · rw [hword, List.append_assoc, List.takeWhile_append_dropWhile, ← hcs,
      List.takeWhile_append_dropWhile]
  · rw [hword]
    intro hempty
    -- The first character of `cs` parts no words, so an empty word is an empty text.
    cases cs with
    | nil => rfl
    | cons c cs =>
      have hnot := List.head?_dropWhile_not parts command.toList
      rw [hcs] at hnot
      rw [List.takeWhile_cons_of_pos (by simpa using hnot)] at hempty
      cases hempty

/-- The first word of a command is the word that a shell runs if there are no blanks in that. -/
theorem firstWord_eq_commandWord_iff {command : String} :
    firstWord command = commandWord command ↔ Solid (commandWord command).toList := by
  constructor
  · intro h
    obtain ⟨-, -, -, hsolid, -⟩ := exists_splitWord command.toList
    rw [← h, firstWord, String.toList_ofList]
    exact hsolid
  · intro hsolid
    obtain ⟨ws, tail, hws, htail, hcommand, hempty⟩ := exists_commandWord command
    have hsplit : (splitWord command.toList).1 = (commandWord command).toList := by
      rw [hcommand, List.append_assoc, splitWord_append_left hws]
      by_cases hword : (commandWord command).toList = []
      · rw [hword, hempty hword]
        rfl
      · rw [splitWord_append hword hsolid htail]
    rw [firstWord, hsplit, String.ofList_toList]

/-! ## What is started -/

/-- A shell that starts nothing and notes the commands that it is given. -/
def notebook : ShellHost (List String) where
  run command _ noted := (.notStarted "", noted ++ [command])
  interrupt _ _ := none

/-- The commands that a shell is given for some arguments. -/
def started (policy : CommandPolicy) (args : Json) : List String :=
  ((tool policy notebook).execute args []).2

theorem launch_eq_ok_iff {policy : CommandPolicy} {args : Json} {command : String} :
    launch policy args = .ok command ↔
      args.get? "command" = some (.str command) ∧ isAllowed policy command = true := by
  have hargs : (args.get? "command").bind (·.string?) = some command ↔
      args.get? "command" = some (.str command) := by
    simp only [Option.bind_eq_some_iff, Json.string?_eq_some_iff, exists_eq_right]
  rw [← hargs]
  unfold launch
  cases (args.get? "command").bind (·.string?) with
  | none => simp
  | some given =>
    by_cases hallowed : isAllowed policy given = true
    · simp only [hallowed, ↓reduceIte, Except.ok.injEq, Option.some.injEq]
      exact ⟨fun h => ⟨h, h ▸ hallowed⟩, And.left⟩
    · simp only [hallowed, Bool.false_eq_true, ↓reduceIte, reduceCtorEq, false_iff, not_and]
      rintro h
      exact Option.some.inj h ▸ hallowed

/-- What is said of a command that is not allowed. -/
theorem launch_of_denial {policy : CommandPolicy} {args : Json} {command : String}
    (hargs : args.get? "command" = some (.str command))
    (hdenied : isAllowed policy command = false) :
    launch policy args = .error (.denied name (denial command)) := by
  simp only [launch, hargs, Option.bind_some, Json.string?_str, hdenied, Bool.false_eq_true,
    ↓reduceIte]

/-- A shell is given a command if one is launched, and no other. -/
theorem mem_started_iff {policy : CommandPolicy} {args : Json} {command : String} :
    command ∈ started policy args ↔ launch policy args = .ok command := by
  cases hlaunch : launch policy args with
  | error e =>
    have hnone : started policy args = [] := by simp only [started, tool, hlaunch]
    simp [hnone]
  | ok given =>
    have hone : started policy args = [given] := by
      simp only [started, tool, hlaunch, notebook, List.nil_append]
    simp [hone, eq_comm]

theorem isAllowed_iff {policy : CommandPolicy} (hlist : policy.allowed ≠ []) {command : String} :
    isAllowed policy command = true ↔
      hasControl command = false ∧ firstWord command ∈ policy.allowed := by
  simp [isAllowed, hlist]

/-- **What an allowlist says of the shell.** With a list of allowed commands, what is started has no
control character in it and its first word is on the list. For any such list this is true of the
word that the shell runs if and only if that word has no blank in it. What is denied is never given
to a shell, and the world stays as it is. -/
theorem allowlist_binds_shell_iff (command : String) :
    ((∀ policy : CommandPolicy, policy.allowed ≠ [] → ∀ args, command ∈ started policy args →
        commandWord command ∈ policy.allowed) ↔
      hasControl command = true ∨ Solid (commandWord command).toList) ∧
    (∀ policy : CommandPolicy, policy.allowed ≠ [] → ∀ args, command ∈ started policy args →
      hasControl command = false ∧ firstWord command ∈ policy.allowed) ∧
    ∀ (policy : CommandPolicy) (args : Json), args.get? "command" = some (.str command) →
      isAllowed policy command = false → ∀ (σ : Type) (host : ShellHost σ) (w : σ),
        (tool policy host).execute args w = (.error (.denied name (denial command)), w) ∧
          (tool policy host).interrupt args w = none := by
  have hstarted (policy : CommandPolicy) (hlist : policy.allowed ≠ []) (args : Json)
      (h : command ∈ started policy args) :
      hasControl command = false ∧ firstWord command ∈ policy.allowed :=
    (isAllowed_iff hlist).1 (launch_eq_ok_iff.1 (mem_started_iff.1 h)).2
  refine ⟨⟨fun hbinds => ?_, ?_⟩, hstarted, ?_⟩
  · -- The list of the first word alone admits the command.
    by_cases hcontrol : hasControl command = true
    · exact .inl hcontrol
    have hone : isAllowed ⟨[firstWord command], 0⟩ command = true :=
      (isAllowed_iff (List.cons_ne_nil _ _)).2
        ⟨Bool.eq_false_iff.2 hcontrol, List.mem_singleton_self _⟩
    have hword := hbinds ⟨[firstWord command], 0⟩ (List.cons_ne_nil _ _)
      (.obj [("command", .str command)]) (mem_started_iff.2 (launch_eq_ok_iff.2 ⟨rfl, hone⟩))
    exact .inr (firstWord_eq_commandWord_iff.1 (List.mem_singleton.1 hword).symm)
  · intro hsolid policy hlist args h
    obtain ⟨hcontrol, hfirst⟩ := hstarted policy hlist args h
    rcases hsolid with hsome | hsolid
    · rw [hsome] at hcontrol
      cases hcontrol
    · rwa [firstWord_eq_commandWord_iff.2 hsolid] at hfirst
  · intro policy args hargs hdenied σ host w
    have hlaunch := launch_of_denial hargs hdenied
    simp only [tool, hlaunch, and_self]

/-- A tab in front of the word is skipped on both sides. -/
theorem tab_before_listed_word :
    "\techo hi" ∈ started ⟨["true", "echo"], 10⟩ (.obj [("command", .str "\techo hi")]) ∧
      commandWord "\techo hi" = "echo" ∧ commandWord "\techo hi" ∈ ["true", "echo"] := by
  have hstarted : "\techo hi" ∈ started ⟨["true", "echo"], 10⟩
      (.obj [("command", .str "\techo hi")]) :=
    mem_started_iff.2 (launch_eq_ok_iff.2 ⟨rfl, by decide⟩)
  have hsolid : Solid (commandWord "\techo hi").toList := solid_of_all (by decide)
  exact ⟨hstarted, by decide,
    (allowlist_binds_shell_iff "\techo hi").1.2 (.inr hsolid) _ (by decide) _ hstarted⟩

/-- A no-break space ends the first word, but the word that the shell runs goes on behind it. -/
theorem no_break_space_in_command_word :
    "echo\u00a0hi" ∈ started ⟨["echo"], 10⟩ (.obj [("command", .str "echo\u00a0hi")]) ∧
      commandWord "echo\u00a0hi" = "echo\u00a0hi" ∧ commandWord "echo\u00a0hi" ∉ ["echo"] := by
  decide

end CommandTool

end ActionTree
