import ActionTree.Proofs.Program.Conversation

/-!
# Settings in an environment

The environment overrides settings that were accepted. It reaches no field that the check of
settings looks at, so the settings that it leaves are accepted again, and overriding them a second
time changes nothing. The key of the settings goes in front of the environment, and the environment
goes in front of all else that it names.

* `Settings.flag?_eq_some_iff`: the texts that spell a truth value.
* `Settings.validate_override`, `Settings.validate_of_load`: what is checked stays as it is.
* `Settings.override_override`: overriding twice.
* `Settings.overrides_are_safe`: the whole account.
-/

namespace ActionTree.Settings

open Text

/-! ## Flags -/

/-- The words for a truth value. -/
def flagWords : Bool → List String
  | true => ["1", "true", "yes", "on"]
  | false => ["0", "false", "no", "off"]

/-- A text spells a truth value: it is one of the words for it in any ASCII case, with blanks around
it. -/
def Spells (text : String) (b : Bool) : Prop :=
  ∃ before word behind, Blank before ∧ Blank behind ∧ text.toList = before ++ word ++ behind ∧
    String.ofList (lower word) ∈ flagWords b

theorem flag?_eq_some {text : String} {b : Bool} :
    flag? text = some b ↔ String.ofList (lower (trim text.toList)) ∈ flagWords b := by
  unfold flag?
  generalize String.ofList (lower (trim text.toList)) = word
  cases b <;> split <;> simp_all [flagWords]

/-- A word for a truth value has no blanks. -/
theorem solid_of_mem_flagWords {word : List Char} {b : Bool}
    (h : String.ofList (lower word) ∈ flagWords b) : Solid word := by
  have hwords : ∀ w ∈ flagWords b, Solid w.toList := by
    intro w hw
    refine solid_of_all ?_
    revert w
    cases b <;> decide
  have hsolid := hwords _ h
  rw [String.toList_ofList] at hsolid
  exact solid_of_lower hsolid

theorem flag?_eq_some_iff {text : String} {b : Bool} : flag? text = some b ↔ Spells text b := by
  rw [flag?_eq_some]
  constructor
  · intro h
    obtain ⟨before, behind, hbefore, hbehind, htext⟩ := exists_eq_trim text.toList
    exact ⟨before, trim text.toList, behind, hbefore, hbehind, htext, h⟩
  · rintro ⟨before, word, behind, hbefore, hbehind, htext, hword⟩
    have hsolid : Solid word := solid_of_mem_flagWords hword
    rw [htext, trim_append_right hbehind, trim_append_left hbefore, hsolid.trimmed.trim_eq]
    exact hword

/-! ## The check -/

/-- The check looks at no field that is overridden. -/
theorem validate_override (s : Settings) (o : Overrides) : (s.override o).validate = s.validate :=
  rfl

/-- The default settings pass their check. -/
theorem validate_default : Settings.default.validate = .ok () := by decide +kernel

theorem validate_of_ofToml {path text : String} {s : Settings} (h : ofToml path text = .ok s) :
    s.validate = .ok () := by
  unfold ofToml at h
  split at h
  · cases h
  rename_i read _
  cases hvalid : read.validate with
  | error err =>
    rw [hvalid] at h
    cases h
  | ok u =>
    rw [hvalid] at h
    cases h
    exact hvalid

/-- Settings that are loaded pass their check. -/
theorem validate_of_load {path : String} {source : Source} {s : Settings}
    (h : load path source = .ok s) : s.validate = .ok () := by
  cases source with
  | absent =>
    obtain rfl : Settings.default = s := Except.ok.inj h
    exact validate_default
  | unreadable reason => cases h
  | text content => exact validate_of_ofToml h

/-- Loading in an environment is loading and overriding: the second check never fails. -/
theorem loadIn_of_load {lookup : String → Option String} {path : String} {source : Source}
    {s : Settings} (h : load path source = .ok s) :
    loadIn lookup path source = .ok (s.override (.ofEnvironment lookup)) := by
  unfold loadIn
  rw [h]
  simp only [bind, Except.bind]
  rw [validate_override, validate_of_load h]
  rfl

/-! ## What is overridden -/

/-- The same overrides again change nothing. -/
theorem override_override (s : Settings) (o : Overrides) :
    (s.override o).override o = s.override o := by
  obtain ⟨apiKey, model, apiUrl, continueOnError⟩ := o
  have hkey : ((s.provider.apiKey.or apiKey).or apiKey) = s.provider.apiKey.or apiKey := by
    cases s.provider.apiKey <;> cases apiKey <;> rfl
  simp only [override, hkey]
  cases model <;> cases apiUrl <;> cases continueOnError <;> rfl

/-- What an environment makes of settings `s`. -/
structure OverriddenBy (lookup : String → Option String) (s t : Settings) : Prop where
  /-- All else stays. -/
  others : t = { s with
    engine := ⟨t.engine.continueOnError⟩
    provider := { s.provider with
      apiKey := t.provider.apiKey
      model := t.provider.model
      apiUrl := t.provider.apiUrl } }
  /-- A key of the settings stays. Without one the first of two variables that is set counts. -/
  apiKey : ∀ k, t.provider.apiKey = some k ↔
    s.provider.apiKey = some k ∨ s.provider.apiKey = none ∧
      (lookup "TREESHELL_API_KEY" = some k ∨
        lookup "TREESHELL_API_KEY" = none ∧ lookup "OPENAI_API_KEY" = some k)
  model : t.provider.model = (lookup "TREESHELL_MODEL").getD s.provider.model
  apiUrl : t.provider.apiUrl = (lookup "TREESHELL_API_URL").getD s.provider.apiUrl
  /-- A flag counts if it spells a truth value. -/
  flag : ∀ text b, lookup "TREESHELL_CONTINUE_ON_ERROR" = some text → Spells text b →
    t.engine.continueOnError = b
  noFlag : (∀ text b, lookup "TREESHELL_CONTINUE_ON_ERROR" = some text → ¬Spells text b) →
    t.engine.continueOnError = s.engine.continueOnError

theorem overriddenBy_override (lookup : String → Option String) (s : Settings) :
    OverriddenBy lookup s (s.override (.ofEnvironment lookup)) where
  others := rfl
  apiKey k := by
    simp [override, Overrides.ofEnvironment, Option.or_eq_some_iff]
  model := rfl
  apiUrl := rfl
  flag text b htext hb := by
    simp only [override, Overrides.ofEnvironment, htext, Option.bind_some, flag?_eq_some_iff.2 hb,
      Option.getD_some]
  noFlag h := by
    have hnone : (lookup "TREESHELL_CONTINUE_ON_ERROR").bind flag? = none := by
      rw [Option.bind_eq_none_iff]
      intro text htext
      cases hflag : flag? text with
      | none => rfl
      | some b => exact absurd (flag?_eq_some_iff.1 hflag) (h text b htext)
    simp only [override, Overrides.ofEnvironment, hnone, Option.getD_none]

/-- **Overrides are safe.** Settings that are loaded pass their check in every environment as well,
so loading them there succeeds, and their catalog makes a tree and an engine. The same environment
again changes nothing of them. They differ from the loaded ones in the key, the model, the address
of the service and the treatment of failures at most, each by the rule of its variables. -/
theorem overrides_are_safe (lookup : String → Option String) {path : String} {source : Source}
    {s : Settings} (h : load path source = .ok s) :
    let t := s.override (.ofEnvironment lookup)
    t.validate = .ok () ∧ loadIn lookup path source = .ok t ∧
      (∃ space, t.tree.space = .ok space) ∧
      (∀ {σ : Type} (around : Surroundings σ), ∃ e, t.makeEngine around = .ok e) ∧
      t.override (.ofEnvironment lookup) = t ∧ OverriddenBy lookup s t := by
  intro t
  have hvalid : t.validate = .ok () := (validate_override s _).trans (validate_of_load h)
  exact ⟨hvalid, loadIn_of_load h, exists_space hvalid,
    fun around => exists_engine_of_validate hvalid around, override_override s _,
    overriddenBy_override lookup s⟩

/-- A key of the settings stays, and the environment turns the treatment of failures over. -/
theorem file_key_and_environment_flag :
    let text := "[provider]\napi_key = \"own\"\n\n[engine]\ncontinue_on_error = true\n"
    let lookup (name : String) :=
      List.lookup name [("OPENAI_API_KEY", "other"), ("TREESHELL_CONTINUE_ON_ERROR", " No\t")]
    ∃ s, load "config.toml" (.text text) = .ok s ∧ s.engine.continueOnError = true ∧
      ∃ t, loadIn lookup "config.toml" (.text text) = .ok t ∧
        t.provider.apiKey = some "own" ∧ t.engine.continueOnError = false := by
  intro text lookup
  let s : Settings :=
    { Settings.default with
      engine := ⟨true⟩
      provider := { ProviderSettings.default with apiKey := some "own" } }
  have hs : load "config.toml" (.text text) = .ok s := by decide +kernel
  have hflag : Spells " No\t" false := flag?_eq_some_iff.1 (by decide +kernel)
  obtain ⟨-, hload, -, -, -, hoverridden⟩ := overrides_are_safe lookup hs
  exact ⟨s, hs, rfl, _, hload, (hoverridden.apiKey "own").2 (.inl rfl),
    hoverridden.flag " No\t" false (by decide) hflag⟩

end ActionTree.Settings
