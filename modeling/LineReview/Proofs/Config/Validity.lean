import LineReview.Config.Loading

set_option autoImplicit false

namespace LineReview

namespace ReportFormat

theorem ofName?_eq_some_iff {name : String} {format : ReportFormat} :
    ofName? name = some format ↔ format.name = name := by
  constructor
  · intro found
    have same := List.find?_some found
    simpa using same
  · rintro rfl
    exact ofName?_name format

theorem ofName?_eq_none_iff {name : String} :
    ofName? name = none ↔ name ∉ ["pretty", "json", "sarif"] := by
  rw [ofName?, List.find?_eq_none]
  simp [all, ReportFormat.name, @eq_comm _ name]

end ReportFormat

namespace Config

/-- Nothing is wrong with the settings. -/
structure Valid (config : Config) : Prop where
  language : ∃ language, config.defaultLanguage = .ok language
  threshold : ∃ rating, config.threshold = .ok rating
  format : (ReportFormat.ofName? config.formatName).isSome = true
  endpoint : Text.isBlankText config.assistant.endpoint.toList = false
  model : Text.isBlankText config.assistant.model.toList = false
  tokens : config.assistant.maxTokens ≠ 0
  temperature : config.assistant.temperature.isTemperature = true

theorem threshold_eq_ok_iff {config : Config} {rating : Option Rating} :
    config.threshold = .ok rating ↔
      (∀ name, config.failOn = some name → (Rating.parse? name).isSome = true) ∧
        config.failOn.bind Rating.parse? = rating := by
  unfold threshold
  cases config.failOn with
  | none => simp
  | some name =>
      cases found : Rating.parse? name with
      | none => simp [found]
      | some known => simp [found]

/-- A check that stops on a fault is passed where there is no fault. -/
theorem check_eq_ok_iff {fault : Prop} [Decidable fault] {error : ConfigFault}
    {next : Unit → Except ConfigFault Unit} :
    (if fault then throw error >>= next else next ()) = .ok () ↔
      ¬ fault ∧ next () = .ok () := by
  by_cases present : fault
  · rw [if_pos present]
    exact ⟨nofun, fun passed => absurd present passed.1⟩
  · rw [if_neg present]
    exact ⟨fun passed => ⟨present, passed⟩, fun passed => passed.2⟩

theorem validate_eq_ok_iff {config : Config} : config.validate = .ok () ↔ config.Valid := by
  unfold validate
  -- The checks after the first one, from the last one back.
  extract_lets temperature tokens model endpoint format rating
  have temperature_iff : temperature () = .ok () ↔
      config.assistant.temperature.isTemperature = true := by
    cases fit : config.assistant.temperature.isTemperature with
    | false => simp [temperature, fit]
    | true => simp [temperature, fit, pure, Except.pure]
  have tokens_iff : tokens () = .ok () ↔
      ¬ config.assistant.maxTokens = 0 ∧ temperature () = .ok () :=
    check_eq_ok_iff
  have model_iff : model () = .ok () ↔
      ¬ Text.isBlankText config.assistant.model.toList = true ∧ tokens () = .ok () :=
        check_eq_ok_iff
  have endpoint_iff : endpoint () = .ok () ↔
      ¬ Text.isBlankText config.assistant.endpoint.toList = true ∧ model () = .ok () :=
        check_eq_ok_iff
  have format_iff : format () = .ok () ↔
      (ReportFormat.ofName? config.formatName).isSome = true ∧ endpoint () = .ok () := by
    cases named : config.format with
    | none => simp [format, named, formatName, ReportFormat.ofName?_name]
    | some name =>
        have known : (ReportFormat.ofName? config.formatName).isSome = true ↔
            ¬ (ReportFormat.ofName? name).isNone = true := by
              simp [formatName, named, Option.isSome_iff_ne_none]
        rw [known]
        simp only [format, named]
        exact check_eq_ok_iff
  have rating_iff : rating () = .ok () ↔
      (∃ rating, config.threshold = .ok rating) ∧ format () = .ok () := by
    cases known : config.threshold with
    | error name =>
        simp only [rating, known]
        exact ⟨nofun, by rintro ⟨⟨_, ⟨⟩⟩, -⟩⟩
    | ok known => simp [rating, known]
  have whole : (∃ language, config.defaultLanguage = .ok language) ∧ rating () = .ok () ↔
      config.Valid := by
    rw [rating_iff, format_iff, endpoint_iff, model_iff, tokens_iff, temperature_iff,
      Bool.not_eq_true, Bool.not_eq_true]
    constructor
    · rintro ⟨language, threshold, format, endpoint, model, tokens, temperature⟩
      exact ⟨language, threshold, format, endpoint, model, tokens, temperature⟩
    · rintro ⟨language, threshold, format, endpoint, model, tokens, temperature⟩
      exact ⟨language, threshold, format, endpoint, model, tokens, temperature⟩
  rw [← whole]
  cases known : config.defaultLanguage with
  | error name => exact ⟨nofun, by rintro ⟨⟨_, ⟨⟩⟩, -⟩⟩
  | ok known => simp

theorem valid_default : Config.default.Valid := by
  rw [← validate_eq_ok_iff]
  rfl

/-- Settings stay valid when they are given another format and another threshold that there are. -/
theorem Valid.withReport {config : Config} (valid : config.Valid) {format threshold : String}
    (formatKnown : (ReportFormat.ofName? format).isSome = true)
    (thresholdKnown : (Rating.parse? threshold).isSome = true) :
    ({ config with format := some format, failOn := some threshold } : Config).Valid where
  language := valid.language
  threshold := by
    refine ⟨_, threshold_eq_ok_iff.mpr ⟨?_, rfl⟩⟩
    rintro name ⟨⟩
    exact thresholdKnown
  format := formatKnown
  endpoint := valid.endpoint
  model := valid.model
  tokens := valid.tokens
  temperature := valid.temperature

theorem valid_of_loadAt {environment : Environment} {tree : FileTree} {path : String}
    {config : Config} (loaded : loadAt environment tree path = .ok config) : config.Valid := by
  unfold loadAt at loaded
  split at loaded
  · cases loaded
  · split at loaded
    · cases loaded
    · split at loaded
      · cases loaded
      · rename_i accepted
        cases loaded
        exact validate_eq_ok_iff.mp accepted

/-- Loaded settings are valid, wherever they come from. -/
theorem valid_of_load {environment : Environment} {tree : FileTree} {asked path : Option String}
    {config : Config} (loaded : load environment tree asked = .ok (config, path)) :
    config.Valid := by
  unfold load at loaded
  split at loaded
  · cases loaded
    exact valid_default
  · rename_i chosen _
    cases read : loadAt environment tree chosen with
    | error error =>
        rw [read] at loaded
        cases loaded
    | ok known =>
        rw [read] at loaded
        cases loaded
        exact valid_of_loadAt read

end Config

end LineReview
