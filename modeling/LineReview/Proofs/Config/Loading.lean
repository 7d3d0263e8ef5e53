import LineReview.Proofs.Config.Validity

set_option autoImplicit false

namespace LineReview.Config

/-- Whatever looks at the settings later finds something it can use. -/
structure Usable (config : Config) : Prop where
  format : config.formatName ∈ ["pretty", "json", "sarif"]
  threshold : ∃ rating, config.threshold = .ok rating
  language : ∃ language, config.defaultLanguage = .ok language
  endpoint : ∃ char ∈ config.assistant.endpoint.toList, Text.isBlank char = false
  model : ∃ char ∈ config.assistant.model.toList, Text.isBlank char = false
  tokens : 1 ≤ config.assistant.maxTokens
  finite : config.assistant.temperature.isFinite = true
  temperature : 0 ≤ config.assistant.temperature.value ∧
    config.assistant.temperature.value ≤ 2

theorem isBlankText_eq_false_iff {text : List Char} :
    Text.isBlankText text = false ↔ ∃ char ∈ text, Text.isBlank char = false := by
  simp [Text.isBlankText]

theorem ofName?_isSome_iff {name : String} :
    (ReportFormat.ofName? name).isSome = true ↔ name ∈ ["pretty", "json", "sarif"] := by
  rw [Option.isSome_iff_ne_none, ne_eq, ReportFormat.ofName?_eq_none_iff, Decidable.not_not]

theorem isTemperature_iff {single : Number.Single} :
    single.isTemperature = true ↔
      single.isFinite = true ∧ 0 ≤ single.value ∧ single.value ≤ 2 := by
  simp only [Number.Single.isTemperature, Bool.and_eq_true, decide_eq_true_eq, and_assoc]

theorem valid_iff_usable {config : Config} : config.Valid ↔ config.Usable := by
  constructor
  · intro valid
    obtain ⟨finite, temperature⟩ := isTemperature_iff.mp valid.temperature
    exact ⟨ofName?_isSome_iff.mp valid.format, valid.threshold, valid.language,
      isBlankText_eq_false_iff.mp valid.endpoint, isBlankText_eq_false_iff.mp valid.model,
      Nat.one_le_iff_ne_zero.mpr valid.tokens, finite, temperature⟩
  · intro usable
    exact ⟨usable.language, usable.threshold, ofName?_isSome_iff.mpr usable.format,
      isBlankText_eq_false_iff.mpr usable.endpoint, isBlankText_eq_false_iff.mpr usable.model,
      Nat.one_le_iff_ne_zero.mp usable.tokens,
      isTemperature_iff.mpr ⟨usable.finite, usable.temperature⟩⟩

theorem validate_eq_ok_iff_usable {config : Config} :
    config.validate = .ok () ↔ config.Usable := by
  rw [validate_eq_ok_iff, valid_iff_usable]

variable {environment : Environment} {tree : FileTree}

theorem loadAt_eq_ok_iff {path : String} {config : Config} :
    loadAt environment tree path = .ok config ↔
      ∃ text, tree.readText environment.folder path = .ok text ∧ read? text = some config ∧
        config.Usable := by
  rw [← validate_eq_ok_iff_usable, loadAt]
  constructor
  · intro loaded
    split at loaded
    · cases loaded
    · rename_i text found
      split at loaded
      · cases loaded
      · rename_i config understood
        split at loaded
        · cases loaded
        · rename_i accepted
          cases loaded
          exact ⟨text, found, understood, accepted⟩
  · rintro ⟨text, found, understood, accepted⟩
    rw [found]
    dsimp only
    rw [understood]
    dsimp only
    rw [accepted]

/-- Settings come from the document asked for or discovered, and are the defaults only where there
is neither. -/
theorem load_eq_ok_iff {asked path : Option String} {config : Config} :
    load environment tree asked = .ok (config, path) ↔
      asked.or (discover environment tree ".") = path ∧
        match path with
        | none => config = default
        | some chosen => loadAt environment tree chosen = .ok config := by
  unfold load
  cases asked.or (discover environment tree ".") with
  | none =>
      constructor
      · rintro ⟨⟩
        exact ⟨rfl, rfl⟩
      · rintro ⟨rfl, rfl⟩
        rfl
  | some chosen =>
      constructor
      · intro loaded
        dsimp only at loaded
        cases found : loadAt environment tree chosen with
        | error error =>
            rw [found] at loaded
            cases loaded
        | ok settings =>
            rw [found] at loaded
            cases loaded
            exact ⟨rfl, found⟩
      · rintro ⟨rfl, found⟩
        dsimp only at found ⊢
        rw [found]
        rfl

end LineReview.Config
